import CommandConsole.Text.Property

/-!
# Composed forms

Two spellings of a name are the same if they have the same composed form: variants of characters are
replaced by the plain ones, marks are put in order, and what can be written as one character is. The
syllables of Hangul follow a rule of their own.
-/

/-!
## Data on composition

The Unicode standard's data on characters, each as one row of numbers: how characters are decomposed,
which pairs make one character, and the classes of marks. Those of identifiers stand before signs.
-/

namespace CommandConsole.Text

/-- Rows of characters that stand for others in order: first, last, what the first stands for. -/
def imageRows : List Nat := [
  832, 833, 768, 1009, 1010, 961, 7472, 7473, 68, 7475, 7482, 71, 7488, 7489, 84, 7492, 7493,
  592, 7496, 7497, 100, 7499, 7500, 603, 7508, 7509, 7446, 7511, 7512, 116, 7517, 7519, 946,
  7520, 7521, 966, 7524, 7525, 117, 7526, 7527, 946, 7529, 7530, 966, 7588, 7590, 616, 7598,
  7601, 626, 7603, 7604, 642, 7606, 7607, 649, 7609, 7610, 651, 7612, 7614, 656, 8342, 8345, 107,
  8347, 8348, 115, 8473, 8475, 80, 8492, 8493, 66, 8496, 8497, 69, 8501, 8504, 1488, 8518, 8519,
  100, 8520, 8521, 105, 8557, 8558, 67, 8573, 8574, 99, 12345, 12346, 21316, 12593, 12594, 4352,
  12597, 12598, 4524, 12599, 12601, 4355, 12602, 12607, 4528, 12609, 12611, 4358, 12613, 12622,
  4361, 12623, 12643, 4449, 12645, 12646, 4372, 12647, 12648, 4551, 12657, 12658, 4381, 12660,
  12661, 4386, 12664, 12668, 4395, 12674, 12675, 4593, 12676, 12678, 4439, 12679, 12680, 4484,
  12682, 12683, 4497, 64082, 64083, 31117, 64290, 64291, 1491, 64292, 64294, 1499, 64381, 64382,
  1670, 64415, 64416, 1722, 65166, 65167, 1575, 65170, 65171, 1576, 65172, 65173, 1577, 65176,
  65177, 1578, 65180, 65181, 1579, 65184, 65185, 1580, 65188, 65189, 1581, 65192, 65193, 1582,
  65194, 65195, 1583, 65196, 65197, 1584, 65198, 65199, 1585, 65200, 65201, 1586, 65204, 65205,
  1587, 65208, 65209, 1588, 65212, 65213, 1589, 65216, 65217, 1590, 65220, 65221, 1591, 65224,
  65225, 1592, 65228, 65229, 1593, 65236, 65237, 1601, 65240, 65241, 1602, 65244, 65245, 1603,
  65248, 65249, 1604, 65252, 65253, 1605, 65256, 65257, 1606, 65260, 65261, 1607, 65262, 65263,
  1608, 65264, 65265, 1609, 65296, 65305, 48, 65313, 65338, 65, 65345, 65370, 97, 65397, 65398,
  12458, 65413, 65418, 12490, 65423, 65427, 12510, 65430, 65435, 12520, 65438, 65439, 12441,
  65441, 65442, 4352, 65445, 65446, 4524, 65447, 65449, 4355, 65450, 65455, 4528, 65457, 65459,
  4358, 65461, 65470, 4361, 65474, 65479, 4449, 65482, 65487, 4455, 65490, 65495, 4461, 65498,
  65500, 4467, 67457, 67458, 720, 67467, 67468, 598, 67481, 67482, 682, 67491, 67492, 630, 67496,
  67497, 637, 67507, 67508, 673, 67510, 67512, 448, 119808, 119833, 65, 119834, 119859, 97,
  119860, 119885, 65, 119886, 119892, 97, 119894, 119911, 105, 119912, 119937, 65, 119938,
  119963, 97, 119966, 119967, 67, 119973, 119974, 74, 119977, 119980, 78, 119982, 119989, 83,
  119990, 119993, 97, 119997, 120003, 104, 120005, 120015, 112, 120016, 120041, 65, 120042,
  120067, 97, 120068, 120069, 65, 120071, 120074, 68, 120077, 120084, 74, 120086, 120092, 83,
  120094, 120119, 97, 120120, 120121, 65, 120123, 120126, 68, 120128, 120132, 73, 120138, 120144,
  83, 120146, 120171, 97, 120172, 120197, 65, 120198, 120223, 97, 120224, 120249, 65, 120250,
  120275, 97, 120276, 120301, 65, 120302, 120327, 97, 120328, 120353, 65, 120354, 120379, 97,
  120380, 120405, 65, 120406, 120431, 97, 120432, 120457, 65, 120458, 120483, 97, 120488, 120504,
  913, 120506, 120512, 931, 120514, 120538, 945, 120546, 120562, 913, 120564, 120570, 931,
  120572, 120596, 945, 120604, 120620, 913, 120622, 120628, 931, 120630, 120654, 945, 120662,
  120678, 913, 120680, 120686, 931, 120688, 120712, 945, 120720, 120736, 913, 120738, 120744,
  931, 120746, 120770, 945, 120778, 120779, 988, 120782, 120791, 48, 120792, 120801, 48, 120802,
  120811, 48, 120812, 120821, 48, 120822, 120831, 48, 126464, 126465, 1575, 126474, 126477, 1603,
  126485, 126486, 1578, 126506, 126509, 1603, 126517, 126518, 1578, 126572, 126573, 1605, 126581,
  126582, 1578, 126592, 126593, 1575, 126596, 126597, 1607, 126603, 126605, 1604, 126613, 126614,
  1578, 126635, 126637, 1604, 126645, 126646, 1578, 130032, 130041, 48, 194601, 194602, 21253,
  194689, 194690, 24033, 194805, 194806, 27578, 194885, 194886, 30494, 195048, 195049, 37591]

/-- Characters before the ideographs. -/
def imagesOfLetters : List Nat := [
  170, 97, 181, 956, 186, 111, 383, 115, 688, 104, 689, 614, 690, 106, 691, 114, 692, 633, 693,
  635, 694, 641, 695, 119, 696, 121, 736, 611, 737, 108, 738, 115, 739, 120, 740, 661, 835, 787,
  884, 697, 903, 183, 976, 946, 977, 952, 978, 933, 981, 966, 982, 960, 1008, 954, 1012, 920,
  1013, 949, 1017, 931, 4348, 4316, 7468, 65, 7469, 198, 7470, 66, 7474, 398, 7484, 79, 7485,
  546, 7486, 80, 7487, 82, 7490, 87, 7491, 97, 7494, 7426, 7495, 98, 7498, 601, 7501, 103, 7503,
  107, 7504, 109, 7505, 331, 7506, 111, 7507, 596, 7510, 112, 7513, 7453, 7514, 623, 7515, 118,
  7516, 7461, 7522, 105, 7523, 114, 7528, 961, 7544, 1085, 7579, 594, 7580, 99, 7581, 597, 7582,
  240, 7583, 604, 7584, 102, 7585, 607, 7586, 609, 7587, 613, 7591, 7547, 7592, 669, 7593, 621,
  7594, 7557, 7595, 671, 7596, 625, 7597, 624, 7602, 632, 7605, 427, 7608, 7452, 7611, 122, 7615,
  952, 8126, 953, 8305, 105, 8319, 110, 8336, 97, 8337, 101, 8338, 111, 8339, 120, 8340, 601,
  8341, 104, 8346, 112, 8450, 67, 8455, 400, 8458, 103, 8459, 72, 8460, 72, 8461, 72, 8462, 104,
  8463, 295, 8464, 73, 8465, 73, 8466, 76, 8467, 108, 8469, 78, 8476, 82, 8477, 82, 8484, 90,
  8486, 937, 8488, 90, 8490, 75, 8495, 101, 8499, 77, 8500, 111, 8505, 105, 8508, 960, 8509, 947,
  8510, 915, 8511, 928, 8517, 68, 8544, 73, 8548, 86, 8553, 88, 8556, 76, 8559, 77, 8560, 105,
  8564, 118, 8569, 120, 8572, 108, 8575, 109, 11388, 106, 11389, 86, 11631, 11617, 12344, 21313,
  12595, 4522, 12596, 4354, 12608, 4378, 12612, 4385, 12644, 4448, 12649, 4556, 12650, 4558,
  12651, 4563, 12652, 4567, 12653, 4569, 12654, 4380, 12655, 4573, 12656, 4575, 12659, 4384,
  12662, 4391, 12663, 4393, 12669, 4402, 12670, 4406, 12671, 4416, 12672, 4423, 12673, 4428,
  12681, 4488, 12684, 4500, 12685, 4510, 12686, 4513, 42652, 1098, 42653, 1100, 42864, 42863,
  42994, 67, 42995, 70, 42996, 81, 43000, 294, 43001, 339, 43868, 42791, 43869, 43831, 43870,
  619, 43871, 43858, 43881, 653]

/-- Ideographs with another code point. -/
def imagesOfIdeographs : List Nat := [
  63744, 35912, 63745, 26356, 63746, 36554, 63747, 36040, 63748, 28369, 63749, 20018, 63750,
  21477, 63751, 40860, 63752, 40860, 63753, 22865, 63754, 37329, 63755, 21895, 63756, 22856,
  63757, 25078, 63758, 30313, 63759, 32645, 63760, 34367, 63761, 34746, 63762, 35064, 63763,
  37007, 63764, 27138, 63765, 27931, 63766, 28889, 63767, 29662, 63768, 33853, 63769, 37226,
  63770, 39409, 63771, 20098, 63772, 21365, 63773, 27396, 63774, 29211, 63775, 34349, 63776,
  40478, 63777, 23888, 63778, 28651, 63779, 34253, 63780, 35172, 63781, 25289, 63782, 33240,
  63783, 34847, 63784, 24266, 63785, 26391, 63786, 28010, 63787, 29436, 63788, 37070, 63789,
  20358, 63790, 20919, 63791, 21214, 63792, 25796, 63793, 27347, 63794, 29200, 63795, 30439,
  63796, 32769, 63797, 34310, 63798, 34396, 63799, 36335, 63800, 38706, 63801, 39791, 63802,
  40442, 63803, 30860, 63804, 31103, 63805, 32160, 63806, 33737, 63807, 37636, 63808, 40575,
  63809, 35542, 63810, 22751, 63811, 24324, 63812, 31840, 63813, 32894, 63814, 29282, 63815,
  30922, 63816, 36034, 63817, 38647, 63818, 22744, 63819, 23650, 63820, 27155, 63821, 28122,
  63822, 28431, 63823, 32047, 63824, 32311, 63825, 38475, 63826, 21202, 63827, 32907, 63828,
  20956, 63829, 20940, 63830, 31260, 63831, 32190, 63832, 33777, 63833, 38517, 63834, 35712,
  63835, 25295, 63836, 27138, 63837, 35582, 63838, 20025, 63839, 23527, 63840, 24594, 63841,
  29575, 63842, 30064, 63843, 21271, 63844, 30971, 63845, 20415, 63846, 24489, 63847, 19981,
  63848, 27852, 63849, 25976, 63850, 32034, 63851, 21443, 63852, 22622, 63853, 30465, 63854,
  33865, 63855, 35498, 63856, 27578, 63857, 36784, 63858, 27784, 63859, 25342, 63860, 33509,
  63861, 25504, 63862, 30053, 63863, 20142, 63864, 20841, 63865, 20937, 63866, 26753, 63867,
  31975, 63868, 33391, 63869, 35538, 63870, 37327, 63871, 21237, 63872, 21570, 63873, 22899,
  63874, 24300, 63875, 26053, 63876, 28670, 63877, 31018, 63878, 38317, 63879, 39530, 63880,
  40599, 63881, 40654, 63882, 21147, 63883, 26310, 63884, 27511, 63885, 36706, 63886, 24180,
  63887, 24976, 63888, 25088, 63889, 25754, 63890, 28451, 63891, 29001, 63892, 29833, 63893,
  31178, 63894, 32244, 63895, 32879, 63896, 36646, 63897, 34030, 63898, 36899, 63899, 37706,
  63900, 21015, 63901, 21155, 63902, 21693, 63903, 28872, 63904, 35010, 63905, 35498, 63906,
  24265, 63907, 24565, 63908, 25467, 63909, 27566, 63910, 31806, 63911, 29557, 63912, 20196,
  63913, 22265, 63914, 23527, 63915, 23994, 63916, 24604, 63917, 29618, 63918, 29801, 63919,
  32666, 63920, 32838, 63921, 37428, 63922, 38646, 63923, 38728, 63924, 38936, 63925, 20363,
  63926, 31150, 63927, 37300, 63928, 38584, 63929, 24801, 63930, 20102, 63931, 20698, 63932,
  23534, 63933, 23615, 63934, 26009, 63935, 27138, 63936, 29134, 63937, 30274, 63938, 34044,
  63939, 36988, 63940, 40845, 63941, 26248, 63942, 38446, 63943, 21129, 63944, 26491, 63945,
  26611, 63946, 27969, 63947, 28316, 63948, 29705, 63949, 30041, 63950, 30827, 63951, 32016,
  63952, 39006, 63953, 20845, 63954, 25134, 63955, 38520, 63956, 20523, 63957, 23833, 63958,
  28138, 63959, 36650, 63960, 24459, 63961, 24900, 63962, 26647, 63963, 29575, 63964, 38534,
  63965, 21033, 63966, 21519, 63967, 23653, 63968, 26131, 63969, 26446, 63970, 26792, 63971,
  27877, 63972, 29702, 63973, 30178, 63974, 32633, 63975, 35023, 63976, 35041, 63977, 37324,
  63978, 38626, 63979, 21311, 63980, 28346, 63981, 21533, 63982, 29136, 63983, 29848, 63984,
  34298, 63985, 38563, 63986, 40023, 63987, 40607, 63988, 26519, 63989, 28107, 63990, 33256,
  63991, 31435, 63992, 31520, 63993, 31890, 63994, 29376, 63995, 28825, 63996, 35672, 63997,
  20160, 63998, 33590, 63999, 21050, 64000, 20999, 64001, 24230, 64002, 25299, 64003, 31958,
  64004, 23429, 64005, 27934, 64006, 26292, 64007, 36667, 64008, 34892, 64009, 38477, 64010,
  35211, 64011, 24275, 64012, 20800, 64013, 21952, 64016, 22618, 64018, 26228, 64021, 20958,
  64022, 29482, 64023, 30410, 64024, 31036, 64025, 31070, 64026, 31077, 64027, 31119, 64028,
  38742, 64029, 31934, 64030, 32701, 64032, 34322, 64034, 35576, 64037, 36920, 64038, 37117,
  64042, 39151, 64043, 39164, 64044, 39208, 64045, 40372, 64046, 37086, 64047, 38583, 64048,
  20398, 64049, 20711, 64050, 20813, 64051, 21193, 64052, 21220, 64053, 21329, 64054, 21917,
  64055, 22022, 64056, 22120, 64057, 22592, 64058, 22696, 64059, 23652, 64060, 23662, 64061,
  24724, 64062, 24936, 64063, 24974, 64064, 25074, 64065, 25935, 64066, 26082, 64067, 26257,
  64068, 26757, 64069, 28023, 64070, 28186, 64071, 28450, 64072, 29038, 64073, 29227, 64074,
  29730, 64075, 30865, 64076, 31038, 64077, 31049, 64078, 31048, 64079, 31056, 64080, 31062,
  64081, 31069, 64084, 31296, 64085, 31361, 64086, 31680, 64087, 32244, 64088, 32265, 64089,
  32321, 64090, 32626, 64091, 32773, 64092, 33261, 64093, 33401, 64094, 33401, 64095, 33879,
  64096, 35088, 64097, 35222, 64098, 35585, 64099, 35641, 64100, 36051, 64101, 36104, 64102,
  36790, 64103, 36920, 64104, 38627, 64105, 38911, 64106, 38971, 64107, 24693, 64108, 148206,
  64109, 33304, 64112, 20006, 64113, 20917, 64114, 20840, 64115, 20352, 64116, 20805, 64117,
  20864, 64118, 21191, 64119, 21242, 64120, 21917, 64121, 21845, 64122, 21913, 64123, 21986,
  64124, 22618, 64125, 22707, 64126, 22852, 64127, 22868, 64128, 23138, 64129, 23336, 64130,
  24274, 64131, 24281, 64132, 24425, 64133, 24493, 64134, 24792, 64135, 24910, 64136, 24840,
  64137, 24974, 64138, 24928, 64139, 25074, 64140, 25140, 64141, 25540, 64142, 25628, 64143,
  25682, 64144, 25942, 64145, 26228, 64146, 26391, 64147, 26395, 64148, 26454, 64149, 27513,
  64150, 27578, 64151, 27969, 64152, 28379, 64153, 28363, 64154, 28450, 64155, 28702, 64156,
  29038, 64157, 30631, 64158, 29237, 64159, 29359, 64160, 29482, 64161, 29809, 64162, 29958,
  64163, 30011, 64164, 30237, 64165, 30239, 64166, 30410, 64167, 30427, 64168, 30452, 64169,
  30538, 64170, 30528, 64171, 30924, 64172, 31409, 64173, 31680, 64174, 31867, 64175, 32091,
  64176, 32244, 64177, 32574, 64178, 32773, 64179, 33618, 64180, 33775, 64181, 34681, 64182,
  35137, 64183, 35206, 64184, 35222, 64185, 35519, 64186, 35576, 64187, 35531, 64188, 35585,
  64189, 35582, 64190, 35565, 64191, 35641, 64192, 35722, 64193, 36104, 64194, 36664, 64195,
  36978, 64196, 37273, 64197, 37494, 64198, 38524, 64199, 38627, 64200, 38742, 64201, 38875,
  64202, 38911, 64203, 38923, 64204, 38971, 64205, 39698, 64206, 40860, 64207, 141386, 64208,
  141380, 64209, 144341, 64210, 15261, 64211, 16408, 64212, 16441, 64213, 152137, 64214, 154832,
  64215, 163539, 64216, 40771, 64217, 40846]

/-- Letters in the forms that they take inside words. -/
def imagesOfForms : List Nat := [
  64288, 1506, 64289, 1488, 64295, 1512, 64296, 1514, 64336, 1649, 64337, 1649, 64338, 1659,
  64339, 1659, 64340, 1659, 64341, 1659, 64342, 1662, 64343, 1662, 64344, 1662, 64345, 1662,
  64346, 1664, 64347, 1664, 64348, 1664, 64349, 1664, 64350, 1658, 64351, 1658, 64352, 1658,
  64353, 1658, 64354, 1663, 64355, 1663, 64356, 1663, 64357, 1663, 64358, 1657, 64359, 1657,
  64360, 1657, 64361, 1657, 64362, 1700, 64363, 1700, 64364, 1700, 64365, 1700, 64366, 1702,
  64367, 1702, 64368, 1702, 64369, 1702, 64370, 1668, 64371, 1668, 64372, 1668, 64373, 1668,
  64374, 1667, 64375, 1667, 64376, 1667, 64377, 1667, 64378, 1670, 64379, 1670, 64380, 1670,
  64383, 1671, 64384, 1671, 64385, 1671, 64386, 1677, 64387, 1677, 64388, 1676, 64389, 1676,
  64390, 1678, 64391, 1678, 64392, 1672, 64393, 1672, 64394, 1688, 64395, 1688, 64396, 1681,
  64397, 1681, 64398, 1705, 64399, 1705, 64400, 1705, 64401, 1705, 64402, 1711, 64403, 1711,
  64404, 1711, 64405, 1711, 64406, 1715, 64407, 1715, 64408, 1715, 64409, 1715, 64410, 1713,
  64411, 1713, 64412, 1713, 64413, 1713, 64414, 1722, 64417, 1723, 64418, 1723, 64419, 1723,
  64422, 1729, 64423, 1729, 64424, 1729, 64425, 1729, 64426, 1726, 64427, 1726, 64428, 1726,
  64429, 1726, 64430, 1746, 64431, 1746, 64467, 1709, 64468, 1709, 64469, 1709, 64470, 1709,
  64471, 1735, 64472, 1735, 64473, 1734, 64474, 1734, 64475, 1736, 64476, 1736, 64478, 1739,
  64479, 1739, 64480, 1733, 64481, 1733, 64482, 1737, 64483, 1737, 64484, 1744, 64485, 1744,
  64486, 1744, 64487, 1744, 64488, 1609, 64489, 1609, 64508, 1740, 64509, 1740, 64510, 1740,
  64511, 1740, 65075, 95, 65076, 95, 65101, 95, 65102, 95, 65103, 95, 65152, 1569, 65165, 1575,
  65168, 1576, 65169, 1576, 65174, 1578, 65175, 1578, 65178, 1579, 65179, 1579, 65182, 1580,
  65183, 1580, 65186, 1581, 65187, 1581, 65190, 1582, 65191, 1582, 65202, 1587, 65203, 1587,
  65206, 1588, 65207, 1588, 65210, 1589, 65211, 1589, 65214, 1590, 65215, 1590, 65218, 1591,
  65219, 1591, 65222, 1592, 65223, 1592, 65226, 1593, 65227, 1593, 65230, 1594, 65231, 1594,
  65232, 1594, 65233, 1601, 65234, 1601, 65235, 1601, 65238, 1602, 65239, 1602, 65242, 1603,
  65243, 1603, 65246, 1604, 65247, 1604, 65250, 1605, 65251, 1605, 65254, 1606, 65255, 1606,
  65258, 1607, 65259, 1607, 65266, 1610, 65267, 1610, 65268, 1610, 65343, 95, 65382, 12530,
  65383, 12449, 65384, 12451, 65385, 12453, 65386, 12455, 65387, 12457, 65388, 12515, 65389,
  12517, 65390, 12519, 65391, 12483, 65392, 12540, 65393, 12450, 65394, 12452, 65395, 12454,
  65396, 12456, 65399, 12461, 65400, 12463, 65401, 12465, 65402, 12467, 65403, 12469, 65404,
  12471, 65405, 12473, 65406, 12475, 65407, 12477, 65408, 12479, 65409, 12481, 65410, 12484,
  65411, 12486, 65412, 12488, 65419, 12498, 65420, 12501, 65421, 12504, 65422, 12507, 65428,
  12516, 65429, 12518, 65436, 12527, 65437, 12531, 65440, 4448, 65443, 4522, 65444, 4354, 65456,
  4378, 65460, 4385]

/-- Characters of the further planes. -/
def imagesOfFarther : List Nat := [
  67459, 230, 67460, 665, 67461, 595, 67463, 675, 67464, 43878, 67465, 677, 67466, 676, 67469,
  7569, 67470, 600, 67471, 606, 67472, 681, 67473, 612, 67474, 610, 67475, 608, 67476, 667,
  67477, 295, 67478, 668, 67479, 615, 67480, 644, 67483, 620, 67484, 122628, 67485, 42894, 67486,
  622, 67487, 122629, 67488, 654, 67489, 122630, 67490, 248, 67493, 113, 67494, 634, 67495,
  122632, 67498, 640, 67499, 680, 67500, 678, 67501, 43879, 67502, 679, 67503, 648, 67504, 11377,
  67506, 655, 67509, 664, 67513, 122634, 67514, 122654, 119964, 65, 119970, 71, 119995, 102,
  120134, 79, 120484, 305, 120485, 567, 120505, 920, 120540, 949, 120541, 952, 120542, 954,
  120543, 966, 120544, 961, 120545, 960, 120563, 920, 120598, 949, 120599, 952, 120600, 954,
  120601, 966, 120602, 961, 120603, 960, 120621, 920, 120656, 949, 120657, 952, 120658, 954,
  120659, 966, 120660, 961, 120661, 960, 120679, 920, 120714, 949, 120715, 952, 120716, 954,
  120717, 966, 120718, 961, 120719, 960, 120737, 920, 120772, 949, 120773, 952, 120774, 954,
  120775, 966, 120776, 961, 120777, 960, 126466, 1580, 126467, 1583, 126469, 1608, 126470, 1586,
  126471, 1581, 126472, 1591, 126473, 1610, 126478, 1587, 126479, 1593, 126480, 1601, 126481,
  1589, 126482, 1602, 126483, 1585, 126484, 1588, 126487, 1582, 126488, 1584, 126489, 1590,
  126490, 1592, 126491, 1594, 126492, 1646, 126493, 1722, 126494, 1697, 126495, 1647, 126497,
  1576, 126498, 1580, 126500, 1607, 126503, 1581, 126505, 1610, 126510, 1587, 126511, 1593,
  126512, 1601, 126513, 1589, 126514, 1602, 126516, 1588, 126519, 1582, 126521, 1590, 126523,
  1594, 126530, 1580, 126535, 1581, 126537, 1610, 126539, 1604, 126541, 1606, 126542, 1587,
  126543, 1593, 126545, 1589, 126546, 1602, 126548, 1588, 126551, 1582, 126553, 1590, 126555,
  1594, 126557, 1722, 126559, 1647, 126561, 1576, 126562, 1580, 126564, 1607, 126567, 1581,
  126568, 1591, 126569, 1610, 126570, 1603, 126574, 1587, 126575, 1593, 126576, 1601, 126577,
  1589, 126578, 1602, 126580, 1588, 126583, 1582, 126585, 1590, 126586, 1592, 126587, 1594,
  126588, 1646, 126590, 1697, 126594, 1580, 126595, 1583, 126598, 1586, 126599, 1581, 126600,
  1591, 126601, 1610, 126606, 1587, 126607, 1593, 126608, 1601, 126609, 1589, 126610, 1602,
  126611, 1585, 126612, 1588, 126615, 1582, 126616, 1584, 126617, 1590, 126618, 1592, 126619,
  1594, 126625, 1576, 126626, 1580, 126627, 1583, 126629, 1608, 126630, 1586, 126631, 1581,
  126632, 1591, 126633, 1610, 126638, 1587, 126639, 1593, 126640, 1601, 126641, 1589, 126642,
  1602, 126643, 1585, 126644, 1588, 126647, 1582, 126648, 1584, 126649, 1590, 126650, 1592,
  126651, 1594, 194560, 20029, 194561, 20024, 194562, 20033, 194563, 131362, 194564, 20320,
  194565, 20398, 194566, 20411, 194567, 20482, 194568, 20602, 194569, 20633, 194570, 20711,
  194571, 20687, 194572, 13470, 194573, 132666, 194574, 20813, 194575, 20820, 194576, 20836,
  194577, 20855, 194578, 132380, 194579, 13497, 194580, 20839, 194581, 20877, 194582, 132427,
  194583, 20887, 194584, 20900, 194585, 20172, 194586, 20908, 194587, 20917, 194588, 168415,
  194589, 20981, 194590, 20995, 194591, 13535, 194592, 21051, 194593, 21062, 194594, 21106,
  194595, 21111, 194596, 13589, 194597, 21191, 194598, 21193, 194599, 21220, 194600, 21242,
  194603, 21271, 194604, 21321, 194605, 21329, 194606, 21338, 194607, 21363, 194608, 21373,
  194609, 21375, 194610, 21375, 194611, 21375, 194612, 133676, 194613, 28784, 194614, 21450,
  194615, 21471, 194616, 133987, 194617, 21483, 194618, 21489, 194619, 21510, 194620, 21662,
  194621, 21560, 194622, 21576, 194623, 21608, 194624, 21666, 194625, 21750, 194626, 21776,
  194627, 21843, 194628, 21859, 194629, 21892, 194630, 21892, 194631, 21913, 194632, 21931,
  194633, 21939, 194634, 21954, 194635, 22294, 194636, 22022, 194637, 22295, 194638, 22097,
  194639, 22132, 194640, 20999, 194641, 22766, 194642, 22478, 194643, 22516, 194644, 22541,
  194645, 22411, 194646, 22578, 194647, 22577, 194648, 22700, 194649, 136420, 194650, 22770,
  194651, 22775, 194652, 22790, 194653, 22810, 194654, 22818, 194655, 22882, 194656, 136872,
  194657, 136938, 194658, 23020, 194659, 23067, 194660, 23079, 194661, 23000, 194662, 23142,
  194663, 14062, 194664, 14076, 194665, 23304, 194666, 23358, 194667, 23358, 194668, 137672,
  194669, 23491, 194670, 23512, 194671, 23527, 194672, 23539, 194673, 138008, 194674, 23551,
  194675, 23558, 194676, 24403, 194677, 23586, 194678, 14209, 194679, 23648, 194680, 23662,
  194681, 23744, 194682, 23693, 194683, 138724, 194684, 23875, 194685, 138726, 194686, 23918,
  194687, 23915, 194688, 23932, 194691, 14383, 194692, 24061, 194693, 24104, 194694, 24125,
  194695, 24169, 194696, 14434, 194697, 139651, 194698, 14460, 194699, 24240, 194700, 24243,
  194701, 24246, 194702, 24266, 194703, 172946, 194704, 24318, 194705, 140081, 194706, 140081,
  194707, 33281, 194708, 24354, 194709, 24354, 194710, 14535, 194711, 144056, 194712, 156122,
  194713, 24418, 194714, 24427, 194715, 14563, 194716, 24474, 194717, 24525, 194718, 24535,
  194719, 24569, 194720, 24705, 194721, 14650, 194722, 14620, 194723, 24724, 194724, 141012,
  194725, 24775, 194726, 24904, 194727, 24908, 194728, 24910, 194729, 24908, 194730, 24954,
  194731, 24974, 194732, 25010, 194733, 24996, 194734, 25007, 194735, 25054, 194736, 25074,
  194737, 25078, 194738, 25104, 194739, 25115, 194740, 25181, 194741, 25265, 194742, 25300,
  194743, 25424, 194744, 142092, 194745, 25405, 194746, 25340, 194747, 25448, 194748, 25475,
  194749, 25572, 194750, 142321, 194751, 25634, 194752, 25541, 194753, 25513, 194754, 14894,
  194755, 25705, 194756, 25726, 194757, 25757, 194758, 25719, 194759, 14956, 194760, 25935,
  194761, 25964, 194762, 143370, 194763, 26083, 194764, 26360, 194765, 26185, 194766, 15129,
  194767, 26257, 194768, 15112, 194769, 15076, 194770, 20882, 194771, 20885, 194772, 26368,
  194773, 26268, 194774, 32941, 194775, 17369, 194776, 26391, 194777, 26395, 194778, 26401,
  194779, 26462, 194780, 26451, 194781, 144323, 194782, 15177, 194783, 26618, 194784, 26501,
  194785, 26706, 194786, 26757, 194787, 144493, 194788, 26766, 194789, 26655, 194790, 26900,
  194791, 15261, 194792, 26946, 194793, 27043, 194794, 27114, 194795, 27304, 194796, 145059,
  194797, 27355, 194798, 15384, 194799, 27425, 194800, 145575, 194801, 27476, 194802, 15438,
  194803, 27506, 194804, 27551, 194807, 146061, 194808, 138507, 194809, 146170, 194810, 27726,
  194811, 146620, 194812, 27839, 194813, 27853, 194814, 27751, 194815, 27926, 194816, 27966,
  194817, 28023, 194818, 27969, 194819, 28009, 194820, 28024, 194821, 28037, 194822, 146718,
  194823, 27956, 194824, 28207, 194825, 28270, 194826, 15667, 194827, 28363, 194828, 28359,
  194829, 147153, 194830, 28153, 194831, 28526, 194832, 147294, 194833, 147342, 194834, 28614,
  194835, 28729, 194836, 28702, 194837, 28699, 194838, 15766, 194839, 28746, 194840, 28797,
  194841, 28791, 194842, 28845, 194843, 132389, 194844, 28997, 194845, 148067, 194846, 29084,
  194847, 148395, 194848, 29224, 194849, 29237, 194850, 29264, 194851, 149000, 194852, 29312,
  194853, 29333, 194854, 149301, 194855, 149524, 194856, 29562, 194857, 29579, 194858, 16044,
  194859, 29605, 194860, 16056, 194861, 16056, 194862, 29767, 194863, 29788, 194864, 29809,
  194865, 29829, 194866, 29898, 194867, 16155, 194868, 29988, 194869, 150582, 194870, 30014,
  194871, 150674, 194872, 30064, 194873, 139679, 194874, 30224, 194875, 151457, 194876, 151480,
  194877, 151620, 194878, 16380, 194879, 16392, 194880, 30452, 194881, 151795, 194882, 151794,
  194883, 151833, 194884, 151859, 194887, 30495, 194888, 30538, 194889, 16441, 194890, 30603,
  194891, 16454, 194892, 16534, 194893, 152605, 194894, 30798, 194895, 30860, 194896, 30924,
  194897, 16611, 194898, 153126, 194899, 31062, 194900, 153242, 194901, 153285, 194902, 31119,
  194903, 31211, 194904, 16687, 194905, 31296, 194906, 31306, 194907, 31311, 194908, 153980,
  194909, 154279, 194910, 154279, 194911, 31470, 194912, 16898, 194913, 154539, 194914, 31686,
  194915, 31689, 194916, 16935, 194917, 154752, 194918, 31954, 194919, 17056, 194920, 31976,
  194921, 31971, 194922, 32000, 194923, 155526, 194924, 32099, 194925, 17153, 194926, 32199,
  194927, 32258, 194928, 32325, 194929, 17204, 194930, 156200, 194931, 156231, 194932, 17241,
  194933, 156377, 194934, 32634, 194935, 156478, 194936, 32661, 194937, 32762, 194938, 32773,
  194939, 156890, 194940, 156963, 194941, 32864, 194942, 157096, 194943, 32880, 194944, 144223,
  194945, 17365, 194946, 32946, 194947, 33027, 194948, 17419, 194949, 33086, 194950, 23221,
  194951, 157607, 194952, 157621, 194953, 144275, 194954, 144284, 194955, 33281, 194956, 33284,
  194957, 36766, 194958, 17515, 194959, 33425, 194960, 33419, 194961, 33437, 194962, 21171,
  194963, 33457, 194964, 33459, 194965, 33469, 194966, 33510, 194967, 158524, 194968, 33509,
  194969, 33565, 194970, 33635, 194971, 33709, 194972, 33571, 194973, 33725, 194974, 33767,
  194975, 33879, 194976, 33619, 194977, 33738, 194978, 33740, 194979, 33756, 194980, 158774,
  194981, 159083, 194982, 158933, 194983, 17707, 194984, 34033, 194985, 34035, 194986, 34070,
  194987, 160714, 194988, 34148, 194989, 159532, 194990, 17757, 194991, 17761, 194992, 159665,
  194993, 159954, 194994, 17771, 194995, 34384, 194996, 34396, 194997, 34407, 194998, 34409,
  194999, 34473, 195000, 34440, 195001, 34574, 195002, 34530, 195003, 34681, 195004, 34600,
  195005, 34667, 195006, 34694, 195007, 17879, 195008, 34785, 195009, 34817, 195010, 17913,
  195011, 34912, 195012, 34915, 195013, 161383, 195014, 35031, 195015, 35038, 195016, 17973,
  195017, 35066, 195018, 13499, 195019, 161966, 195020, 162150, 195021, 18110, 195022, 18119,
  195023, 35488, 195024, 35565, 195025, 35722, 195026, 35925, 195027, 162984, 195028, 36011,
  195029, 36033, 195030, 36123, 195031, 36215, 195032, 163631, 195033, 133124, 195034, 36299,
  195035, 36284, 195036, 36336, 195037, 133342, 195038, 36564, 195039, 36664, 195040, 165330,
  195041, 165357, 195042, 37012, 195043, 37105, 195044, 37137, 195045, 165678, 195046, 37147,
  195047, 37432, 195050, 37500, 195051, 37881, 195052, 37909, 195053, 166906, 195054, 38283,
  195055, 18837, 195056, 38327, 195057, 167287, 195058, 18918, 195059, 38595, 195060, 23986,
  195061, 38691, 195062, 168261, 195063, 168474, 195064, 19054, 195065, 19062, 195066, 38880,
  195067, 168970, 195068, 19122, 195069, 169110, 195070, 38923, 195071, 38923, 195072, 38953,
  195073, 169398, 195074, 39138, 195075, 19251, 195076, 39209, 195077, 39335, 195078, 39362,
  195079, 39422, 195080, 19406, 195081, 170800, 195082, 39698, 195083, 40000, 195084, 40189,
  195085, 19662, 195086, 19693, 195087, 40295, 195088, 172238, 195089, 19704, 195090, 172293,
  195091, 172558, 195092, 172689, 195093, 40635, 195094, 19798, 195095, 40697, 195096, 40702,
  195097, 40709, 195098, 40719, 195099, 40726, 195100, 40763, 195101, 173568]

/-- Single characters that stand for another: character, what it stands for. -/
def images : List Nat :=
  imagesOfLetters ++ imagesOfIdeographs ++ imagesOfForms ++ imagesOfFarther

/-- Characters before the forms of letters. -/
def expansionsOfLetters : List Nat := [
  306, 2, 73, 74, 307, 2, 105, 106, 319, 2, 76, 183, 320, 2, 108, 183, 329, 2, 700, 110, 452, 3,
  68, 90, 780, 453, 3, 68, 122, 780, 454, 3, 100, 122, 780, 455, 2, 76, 74, 456, 2, 76, 106, 457,
  2, 108, 106, 458, 2, 78, 74, 459, 2, 78, 106, 460, 2, 110, 106, 497, 2, 68, 90, 498, 2, 68,
  122, 499, 2, 100, 122, 836, 2, 776, 769, 1415, 2, 1381, 1410, 1653, 2, 1575, 1652, 1654, 2,
  1608, 1652, 1655, 2, 1735, 1652, 1656, 2, 1610, 1652, 2392, 2, 2325, 2364, 2393, 2, 2326, 2364,
  2394, 2, 2327, 2364, 2395, 2, 2332, 2364, 2396, 2, 2337, 2364, 2397, 2, 2338, 2364, 2398, 2,
  2347, 2364, 2399, 2, 2351, 2364, 2524, 2, 2465, 2492, 2525, 2, 2466, 2492, 2527, 2, 2479, 2492,
  2611, 2, 2610, 2620, 2614, 2, 2616, 2620, 2649, 2, 2582, 2620, 2650, 2, 2583, 2620, 2651, 2,
  2588, 2620, 2654, 2, 2603, 2620, 2908, 2, 2849, 2876, 2909, 2, 2850, 2876, 3635, 2, 3661, 3634,
  3763, 2, 3789, 3762, 3804, 2, 3755, 3737, 3805, 2, 3755, 3745, 3907, 2, 3906, 4023, 3917, 2,
  3916, 4023, 3922, 2, 3921, 4023, 3927, 2, 3926, 4023, 3932, 2, 3931, 4023, 3945, 2, 3904, 4021,
  3955, 2, 3953, 3954, 3957, 2, 3953, 3956, 3958, 2, 4018, 3968, 3959, 3, 4018, 3953, 3968, 3960,
  2, 4019, 3968, 3961, 3, 4019, 3953, 3968, 3969, 2, 3953, 3968, 3987, 2, 3986, 4023, 3997, 2,
  3996, 4023, 4002, 2, 4001, 4023, 4007, 2, 4006, 4023, 4012, 2, 4011, 4023, 4025, 2, 3984, 4021,
  7834, 2, 97, 702, 8049, 2, 945, 769, 8051, 2, 949, 769, 8053, 2, 951, 769, 8055, 2, 953, 769,
  8057, 2, 959, 769, 8059, 2, 965, 769, 8061, 2, 969, 769, 8123, 2, 913, 769, 8137, 2, 917, 769,
  8139, 2, 919, 769, 8147, 3, 953, 776, 769, 8155, 2, 921, 769, 8163, 3, 965, 776, 769, 8171, 2,
  933, 769, 8185, 2, 927, 769, 8187, 2, 937, 769, 8491, 2, 65, 778, 8545, 2, 73, 73, 8546, 3, 73,
  73, 73, 8547, 2, 73, 86, 8549, 2, 86, 73, 8550, 3, 86, 73, 73, 8551, 4, 86, 73, 73, 73, 8552,
  2, 73, 88, 8554, 2, 88, 73, 8555, 3, 88, 73, 73, 8561, 2, 105, 105, 8562, 3, 105, 105, 105,
  8563, 2, 105, 118, 8565, 2, 118, 105, 8566, 3, 118, 105, 105, 8567, 4, 118, 105, 105, 105,
  8568, 2, 105, 120, 8570, 2, 120, 105, 8571, 3, 120, 105, 105, 12447, 2, 12424, 12426, 12543, 2,
  12467, 12488]

/-- Joined letters. -/
def expansionsOfForms : List Nat := [
  64256, 2, 102, 102, 64257, 2, 102, 105, 64258, 2, 102, 108, 64259, 3, 102, 102, 105, 64260, 3,
  102, 102, 108, 64261, 2, 115, 116, 64262, 2, 115, 116, 64275, 2, 1396, 1398, 64276, 2, 1396,
  1381, 64277, 2, 1396, 1387, 64278, 2, 1406, 1398, 64279, 2, 1396, 1389, 64285, 2, 1497, 1460,
  64287, 2, 1522, 1463, 64298, 2, 1513, 1473, 64299, 2, 1513, 1474, 64300, 3, 1513, 1468, 1473,
  64301, 3, 1513, 1468, 1474, 64302, 2, 1488, 1463, 64303, 2, 1488, 1464, 64304, 2, 1488, 1468,
  64305, 2, 1489, 1468, 64306, 2, 1490, 1468, 64307, 2, 1491, 1468, 64308, 2, 1492, 1468, 64309,
  2, 1493, 1468, 64310, 2, 1494, 1468, 64312, 2, 1496, 1468, 64313, 2, 1497, 1468, 64314, 2,
  1498, 1468, 64315, 2, 1499, 1468, 64316, 2, 1500, 1468, 64318, 2, 1502, 1468, 64320, 2, 1504,
  1468, 64321, 2, 1505, 1468, 64323, 2, 1507, 1468, 64324, 2, 1508, 1468, 64326, 2, 1510, 1468,
  64327, 2, 1511, 1468, 64328, 2, 1512, 1468, 64329, 2, 1513, 1468, 64330, 2, 1514, 1468, 64331,
  2, 1493, 1465, 64332, 2, 1489, 1471, 64333, 2, 1499, 1471, 64334, 2, 1508, 1471, 64335, 2,
  1488, 1500, 64420, 2, 1749, 1620, 64421, 2, 1749, 1620, 64432, 2, 1746, 1620, 64433, 2, 1746,
  1620, 64477, 2, 1735, 1652, 64490, 3, 1610, 1620, 1575, 64491, 3, 1610, 1620, 1575, 64492, 3,
  1610, 1620, 1749, 64493, 3, 1610, 1620, 1749, 64494, 3, 1610, 1620, 1608, 64495, 3, 1610, 1620,
  1608, 64496, 3, 1610, 1620, 1735, 64497, 3, 1610, 1620, 1735, 64498, 3, 1610, 1620, 1734,
  64499, 3, 1610, 1620, 1734, 64500, 3, 1610, 1620, 1736, 64501, 3, 1610, 1620, 1736, 64502, 3,
  1610, 1620, 1744, 64503, 3, 1610, 1620, 1744, 64504, 3, 1610, 1620, 1744, 64505, 3, 1610, 1620,
  1609, 64506, 3, 1610, 1620, 1609, 64507, 3, 1610, 1620, 1609, 64512, 3, 1610, 1620, 1580,
  64513, 3, 1610, 1620, 1581, 64514, 3, 1610, 1620, 1605, 64515, 3, 1610, 1620, 1609, 64516, 3,
  1610, 1620, 1610, 64517, 2, 1576, 1580, 64518, 2, 1576, 1581, 64519, 2, 1576, 1582, 64520, 2,
  1576, 1605, 64521, 2, 1576, 1609, 64522, 2, 1576, 1610, 64523, 2, 1578, 1580, 64524, 2, 1578,
  1581, 64525, 2, 1578, 1582, 64526, 2, 1578, 1605, 64527, 2, 1578, 1609, 64528, 2, 1578, 1610,
  64529, 2, 1579, 1580, 64530, 2, 1579, 1605, 64531, 2, 1579, 1609, 64532, 2, 1579, 1610, 64533,
  2, 1580, 1581, 64534, 2, 1580, 1605, 64535, 2, 1581, 1580, 64536, 2, 1581, 1605, 64537, 2,
  1582, 1580, 64538, 2, 1582, 1581, 64539, 2, 1582, 1605, 64540, 2, 1587, 1580, 64541, 2, 1587,
  1581, 64542, 2, 1587, 1582, 64543, 2, 1587, 1605, 64544, 2, 1589, 1581, 64545, 2, 1589, 1605,
  64546, 2, 1590, 1580, 64547, 2, 1590, 1581, 64548, 2, 1590, 1582, 64549, 2, 1590, 1605, 64550,
  2, 1591, 1581, 64551, 2, 1591, 1605, 64552, 2, 1592, 1605, 64553, 2, 1593, 1580, 64554, 2,
  1593, 1605, 64555, 2, 1594, 1580, 64556, 2, 1594, 1605, 64557, 2, 1601, 1580, 64558, 2, 1601,
  1581, 64559, 2, 1601, 1582, 64560, 2, 1601, 1605, 64561, 2, 1601, 1609, 64562, 2, 1601, 1610,
  64563, 2, 1602, 1581, 64564, 2, 1602, 1605, 64565, 2, 1602, 1609, 64566, 2, 1602, 1610, 64567,
  2, 1603, 1575, 64568, 2, 1603, 1580, 64569, 2, 1603, 1581, 64570, 2, 1603, 1582, 64571, 2,
  1603, 1604, 64572, 2, 1603, 1605, 64573, 2, 1603, 1609, 64574, 2, 1603, 1610, 64575, 2, 1604,
  1580, 64576, 2, 1604, 1581, 64577, 2, 1604, 1582, 64578, 2, 1604, 1605, 64579, 2, 1604, 1609,
  64580, 2, 1604, 1610, 64581, 2, 1605, 1580, 64582, 2, 1605, 1581, 64583, 2, 1605, 1582, 64584,
  2, 1605, 1605, 64585, 2, 1605, 1609, 64586, 2, 1605, 1610, 64587, 2, 1606, 1580, 64588, 2,
  1606, 1581, 64589, 2, 1606, 1582, 64590, 2, 1606, 1605, 64591, 2, 1606, 1609, 64592, 2, 1606,
  1610, 64593, 2, 1607, 1580, 64594, 2, 1607, 1605, 64595, 2, 1607, 1609, 64596, 2, 1607, 1610,
  64597, 2, 1610, 1580, 64598, 2, 1610, 1581, 64599, 2, 1610, 1582, 64600, 2, 1610, 1605, 64601,
  2, 1610, 1609, 64602, 2, 1610, 1610, 64603, 2, 1584, 1648, 64604, 2, 1585, 1648, 64605, 2,
  1609, 1648, 64612, 3, 1610, 1620, 1585, 64613, 3, 1610, 1620, 1586, 64614, 3, 1610, 1620, 1605,
  64615, 3, 1610, 1620, 1606, 64616, 3, 1610, 1620, 1609, 64617, 3, 1610, 1620, 1610, 64618, 2,
  1576, 1585, 64619, 2, 1576, 1586, 64620, 2, 1576, 1605, 64621, 2, 1576, 1606, 64622, 2, 1576,
  1609, 64623, 2, 1576, 1610, 64624, 2, 1578, 1585, 64625, 2, 1578, 1586, 64626, 2, 1578, 1605,
  64627, 2, 1578, 1606, 64628, 2, 1578, 1609, 64629, 2, 1578, 1610, 64630, 2, 1579, 1585, 64631,
  2, 1579, 1586, 64632, 2, 1579, 1605, 64633, 2, 1579, 1606, 64634, 2, 1579, 1609, 64635, 2,
  1579, 1610, 64636, 2, 1601, 1609, 64637, 2, 1601, 1610, 64638, 2, 1602, 1609, 64639, 2, 1602,
  1610, 64640, 2, 1603, 1575, 64641, 2, 1603, 1604, 64642, 2, 1603, 1605, 64643, 2, 1603, 1609,
  64644, 2, 1603, 1610, 64645, 2, 1604, 1605, 64646, 2, 1604, 1609, 64647, 2, 1604, 1610, 64648,
  2, 1605, 1575, 64649, 2, 1605, 1605, 64650, 2, 1606, 1585, 64651, 2, 1606, 1586, 64652, 2,
  1606, 1605, 64653, 2, 1606, 1606, 64654, 2, 1606, 1609, 64655, 2, 1606, 1610, 64656, 2, 1609,
  1648, 64657, 2, 1610, 1585, 64658, 2, 1610, 1586, 64659, 2, 1610, 1605, 64660, 2, 1610, 1606,
  64661, 2, 1610, 1609, 64662, 2, 1610, 1610, 64663, 3, 1610, 1620, 1580, 64664, 3, 1610, 1620,
  1581, 64665, 3, 1610, 1620, 1582, 64666, 3, 1610, 1620, 1605, 64667, 3, 1610, 1620, 1607,
  64668, 2, 1576, 1580, 64669, 2, 1576, 1581, 64670, 2, 1576, 1582, 64671, 2, 1576, 1605, 64672,
  2, 1576, 1607, 64673, 2, 1578, 1580, 64674, 2, 1578, 1581, 64675, 2, 1578, 1582, 64676, 2,
  1578, 1605, 64677, 2, 1578, 1607, 64678, 2, 1579, 1605, 64679, 2, 1580, 1581, 64680, 2, 1580,
  1605, 64681, 2, 1581, 1580, 64682, 2, 1581, 1605, 64683, 2, 1582, 1580, 64684, 2, 1582, 1605,
  64685, 2, 1587, 1580, 64686, 2, 1587, 1581, 64687, 2, 1587, 1582, 64688, 2, 1587, 1605, 64689,
  2, 1589, 1581, 64690, 2, 1589, 1582, 64691, 2, 1589, 1605, 64692, 2, 1590, 1580, 64693, 2,
  1590, 1581, 64694, 2, 1590, 1582, 64695, 2, 1590, 1605, 64696, 2, 1591, 1581, 64697, 2, 1592,
  1605, 64698, 2, 1593, 1580, 64699, 2, 1593, 1605, 64700, 2, 1594, 1580, 64701, 2, 1594, 1605,
  64702, 2, 1601, 1580, 64703, 2, 1601, 1581, 64704, 2, 1601, 1582, 64705, 2, 1601, 1605, 64706,
  2, 1602, 1581, 64707, 2, 1602, 1605, 64708, 2, 1603, 1580, 64709, 2, 1603, 1581, 64710, 2,
  1603, 1582, 64711, 2, 1603, 1604, 64712, 2, 1603, 1605, 64713, 2, 1604, 1580, 64714, 2, 1604,
  1581, 64715, 2, 1604, 1582, 64716, 2, 1604, 1605, 64717, 2, 1604, 1607, 64718, 2, 1605, 1580,
  64719, 2, 1605, 1581, 64720, 2, 1605, 1582, 64721, 2, 1605, 1605, 64722, 2, 1606, 1580, 64723,
  2, 1606, 1581, 64724, 2, 1606, 1582, 64725, 2, 1606, 1605, 64726, 2, 1606, 1607, 64727, 2,
  1607, 1580, 64728, 2, 1607, 1605, 64729, 2, 1607, 1648, 64730, 2, 1610, 1580, 64731, 2, 1610,
  1581, 64732, 2, 1610, 1582, 64733, 2, 1610, 1605, 64734, 2, 1610, 1607, 64735, 3, 1610, 1620,
  1605, 64736, 3, 1610, 1620, 1607, 64737, 2, 1576, 1605, 64738, 2, 1576, 1607, 64739, 2, 1578,
  1605, 64740, 2, 1578, 1607, 64741, 2, 1579, 1605, 64742, 2, 1579, 1607, 64743, 2, 1587, 1605,
  64744, 2, 1587, 1607, 64745, 2, 1588, 1605, 64746, 2, 1588, 1607, 64747, 2, 1603, 1604, 64748,
  2, 1603, 1605, 64749, 2, 1604, 1605, 64750, 2, 1606, 1605, 64751, 2, 1606, 1607, 64752, 2,
  1610, 1605, 64753, 2, 1610, 1607, 64754, 3, 1600, 1614, 1617, 64755, 3, 1600, 1615, 1617,
  64756, 3, 1600, 1616, 1617, 64757, 2, 1591, 1609, 64758, 2, 1591, 1610, 64759, 2, 1593, 1609,
  64760, 2, 1593, 1610, 64761, 2, 1594, 1609, 64762, 2, 1594, 1610, 64763, 2, 1587, 1609, 64764,
  2, 1587, 1610, 64765, 2, 1588, 1609, 64766, 2, 1588, 1610, 64767, 2, 1581, 1609]

/-- Joined letters in threes, words, and characters of the further planes. -/
def expansionsOfFarther : List Nat := [
  64768, 2, 1581, 1610, 64769, 2, 1580, 1609, 64770, 2, 1580, 1610, 64771, 2, 1582, 1609, 64772,
  2, 1582, 1610, 64773, 2, 1589, 1609, 64774, 2, 1589, 1610, 64775, 2, 1590, 1609, 64776, 2,
  1590, 1610, 64777, 2, 1588, 1580, 64778, 2, 1588, 1581, 64779, 2, 1588, 1582, 64780, 2, 1588,
  1605, 64781, 2, 1588, 1585, 64782, 2, 1587, 1585, 64783, 2, 1589, 1585, 64784, 2, 1590, 1585,
  64785, 2, 1591, 1609, 64786, 2, 1591, 1610, 64787, 2, 1593, 1609, 64788, 2, 1593, 1610, 64789,
  2, 1594, 1609, 64790, 2, 1594, 1610, 64791, 2, 1587, 1609, 64792, 2, 1587, 1610, 64793, 2,
  1588, 1609, 64794, 2, 1588, 1610, 64795, 2, 1581, 1609, 64796, 2, 1581, 1610, 64797, 2, 1580,
  1609, 64798, 2, 1580, 1610, 64799, 2, 1582, 1609, 64800, 2, 1582, 1610, 64801, 2, 1589, 1609,
  64802, 2, 1589, 1610, 64803, 2, 1590, 1609, 64804, 2, 1590, 1610, 64805, 2, 1588, 1580, 64806,
  2, 1588, 1581, 64807, 2, 1588, 1582, 64808, 2, 1588, 1605, 64809, 2, 1588, 1585, 64810, 2,
  1587, 1585, 64811, 2, 1589, 1585, 64812, 2, 1590, 1585, 64813, 2, 1588, 1580, 64814, 2, 1588,
  1581, 64815, 2, 1588, 1582, 64816, 2, 1588, 1605, 64817, 2, 1587, 1607, 64818, 2, 1588, 1607,
  64819, 2, 1591, 1605, 64820, 2, 1587, 1580, 64821, 2, 1587, 1581, 64822, 2, 1587, 1582, 64823,
  2, 1588, 1580, 64824, 2, 1588, 1581, 64825, 2, 1588, 1582, 64826, 2, 1591, 1605, 64827, 2,
  1592, 1605, 64828, 2, 1575, 1611, 64829, 2, 1575, 1611, 64848, 3, 1578, 1580, 1605, 64849, 3,
  1578, 1581, 1580, 64850, 3, 1578, 1581, 1580, 64851, 3, 1578, 1581, 1605, 64852, 3, 1578, 1582,
  1605, 64853, 3, 1578, 1605, 1580, 64854, 3, 1578, 1605, 1581, 64855, 3, 1578, 1605, 1582,
  64856, 3, 1580, 1605, 1581, 64857, 3, 1580, 1605, 1581, 64858, 3, 1581, 1605, 1610, 64859, 3,
  1581, 1605, 1609, 64860, 3, 1587, 1581, 1580, 64861, 3, 1587, 1580, 1581, 64862, 3, 1587, 1580,
  1609, 64863, 3, 1587, 1605, 1581, 64864, 3, 1587, 1605, 1581, 64865, 3, 1587, 1605, 1580,
  64866, 3, 1587, 1605, 1605, 64867, 3, 1587, 1605, 1605, 64868, 3, 1589, 1581, 1581, 64869, 3,
  1589, 1581, 1581, 64870, 3, 1589, 1605, 1605, 64871, 3, 1588, 1581, 1605, 64872, 3, 1588, 1581,
  1605, 64873, 3, 1588, 1580, 1610, 64874, 3, 1588, 1605, 1582, 64875, 3, 1588, 1605, 1582,
  64876, 3, 1588, 1605, 1605, 64877, 3, 1588, 1605, 1605, 64878, 3, 1590, 1581, 1609, 64879, 3,
  1590, 1582, 1605, 64880, 3, 1590, 1582, 1605, 64881, 3, 1591, 1605, 1581, 64882, 3, 1591, 1605,
  1581, 64883, 3, 1591, 1605, 1605, 64884, 3, 1591, 1605, 1610, 64885, 3, 1593, 1580, 1605,
  64886, 3, 1593, 1605, 1605, 64887, 3, 1593, 1605, 1605, 64888, 3, 1593, 1605, 1609, 64889, 3,
  1594, 1605, 1605, 64890, 3, 1594, 1605, 1610, 64891, 3, 1594, 1605, 1609, 64892, 3, 1601, 1582,
  1605, 64893, 3, 1601, 1582, 1605, 64894, 3, 1602, 1605, 1581, 64895, 3, 1602, 1605, 1605,
  64896, 3, 1604, 1581, 1605, 64897, 3, 1604, 1581, 1610, 64898, 3, 1604, 1581, 1609, 64899, 3,
  1604, 1580, 1580, 64900, 3, 1604, 1580, 1580, 64901, 3, 1604, 1582, 1605, 64902, 3, 1604, 1582,
  1605, 64903, 3, 1604, 1605, 1581, 64904, 3, 1604, 1605, 1581, 64905, 3, 1605, 1581, 1580,
  64906, 3, 1605, 1581, 1605, 64907, 3, 1605, 1581, 1610, 64908, 3, 1605, 1580, 1581, 64909, 3,
  1605, 1580, 1605, 64910, 3, 1605, 1582, 1580, 64911, 3, 1605, 1582, 1605, 64914, 3, 1605, 1580,
  1582, 64915, 3, 1607, 1605, 1580, 64916, 3, 1607, 1605, 1605, 64917, 3, 1606, 1581, 1605,
  64918, 3, 1606, 1581, 1609, 64919, 3, 1606, 1580, 1605, 64920, 3, 1606, 1580, 1605, 64921, 3,
  1606, 1580, 1609, 64922, 3, 1606, 1605, 1610, 64923, 3, 1606, 1605, 1609, 64924, 3, 1610, 1605,
  1605, 64925, 3, 1610, 1605, 1605, 64926, 3, 1576, 1582, 1610, 64927, 3, 1578, 1580, 1610,
  64928, 3, 1578, 1580, 1609, 64929, 3, 1578, 1582, 1610, 64930, 3, 1578, 1582, 1609, 64931, 3,
  1578, 1605, 1610, 64932, 3, 1578, 1605, 1609, 64933, 3, 1580, 1605, 1610, 64934, 3, 1580, 1581,
  1609, 64935, 3, 1580, 1605, 1609, 64936, 3, 1587, 1582, 1609, 64937, 3, 1589, 1581, 1610,
  64938, 3, 1588, 1581, 1610, 64939, 3, 1590, 1581, 1610, 64940, 3, 1604, 1580, 1610, 64941, 3,
  1604, 1605, 1610, 64942, 3, 1610, 1581, 1610, 64943, 3, 1610, 1580, 1610, 64944, 3, 1610, 1605,
  1610, 64945, 3, 1605, 1605, 1610, 64946, 3, 1602, 1605, 1610, 64947, 3, 1606, 1581, 1610,
  64948, 3, 1602, 1605, 1581, 64949, 3, 1604, 1581, 1605, 64950, 3, 1593, 1605, 1610, 64951, 3,
  1603, 1605, 1610, 64952, 3, 1606, 1580, 1581, 64953, 3, 1605, 1582, 1610, 64954, 3, 1604, 1580,
  1605, 64955, 3, 1603, 1605, 1605, 64956, 3, 1604, 1580, 1605, 64957, 3, 1606, 1580, 1581,
  64958, 3, 1580, 1581, 1610, 64959, 3, 1581, 1580, 1610, 64960, 3, 1605, 1580, 1610, 64961, 3,
  1601, 1605, 1610, 64962, 3, 1576, 1581, 1610, 64963, 3, 1603, 1605, 1605, 64964, 3, 1593, 1580,
  1605, 64965, 3, 1589, 1605, 1605, 64966, 3, 1587, 1582, 1610, 64967, 3, 1606, 1580, 1610,
  65008, 3, 1589, 1604, 1746, 65009, 3, 1602, 1604, 1746, 65010, 4, 1575, 1604, 1604, 1607,
  65011, 4, 1575, 1603, 1576, 1585, 65012, 4, 1605, 1581, 1605, 1583, 65013, 4, 1589, 1604, 1593,
  1605, 65014, 4, 1585, 1587, 1608, 1604, 65015, 4, 1593, 1604, 1610, 1607, 65016, 4, 1608, 1587,
  1604, 1605, 65017, 3, 1589, 1604, 1609, 65137, 2, 1600, 1611, 65143, 2, 1600, 1614, 65145, 2,
  1600, 1615, 65147, 2, 1600, 1616, 65149, 2, 1600, 1617, 65151, 2, 1600, 1618, 65153, 2, 1575,
  1619, 65154, 2, 1575, 1619, 65155, 2, 1575, 1620, 65156, 2, 1575, 1620, 65157, 2, 1608, 1620,
  65158, 2, 1608, 1620, 65159, 2, 1575, 1621, 65160, 2, 1575, 1621, 65161, 2, 1610, 1620, 65162,
  2, 1610, 1620, 65163, 2, 1610, 1620, 65164, 2, 1610, 1620, 65269, 3, 1604, 1575, 1619, 65270,
  3, 1604, 1575, 1619, 65271, 3, 1604, 1575, 1620, 65272, 3, 1604, 1575, 1620, 65273, 3, 1604,
  1575, 1621, 65274, 3, 1604, 1575, 1621, 65275, 2, 1604, 1575, 65276, 2, 1604, 1575]

/-- Characters that stand for several: character, how many, these. -/
def expansions : List Nat :=
  expansionsOfLetters ++ expansionsOfForms ++ expansionsOfFarther

/-- Latin letters. -/
def compositionsOfLatin : List Nat := [
  192, 65, 768, 193, 65, 769, 194, 65, 770, 195, 65, 771, 196, 65, 776, 197, 65, 778, 199, 67,
  807, 200, 69, 768, 201, 69, 769, 202, 69, 770, 203, 69, 776, 204, 73, 768, 205, 73, 769, 206,
  73, 770, 207, 73, 776, 209, 78, 771, 210, 79, 768, 211, 79, 769, 212, 79, 770, 213, 79, 771,
  214, 79, 776, 217, 85, 768, 218, 85, 769, 219, 85, 770, 220, 85, 776, 221, 89, 769, 224, 97,
  768, 225, 97, 769, 226, 97, 770, 227, 97, 771, 228, 97, 776, 229, 97, 778, 231, 99, 807, 232,
  101, 768, 233, 101, 769, 234, 101, 770, 235, 101, 776, 236, 105, 768, 237, 105, 769, 238, 105,
  770, 239, 105, 776, 241, 110, 771, 242, 111, 768, 243, 111, 769, 244, 111, 770, 245, 111, 771,
  246, 111, 776, 249, 117, 768, 250, 117, 769, 251, 117, 770, 252, 117, 776, 253, 121, 769, 255,
  121, 776, 256, 65, 772, 257, 97, 772, 258, 65, 774, 259, 97, 774, 260, 65, 808, 261, 97, 808,
  262, 67, 769, 263, 99, 769, 264, 67, 770, 265, 99, 770, 266, 67, 775, 267, 99, 775, 268, 67,
  780, 269, 99, 780, 270, 68, 780, 271, 100, 780, 274, 69, 772, 275, 101, 772, 276, 69, 774, 277,
  101, 774, 278, 69, 775, 279, 101, 775, 280, 69, 808, 281, 101, 808, 282, 69, 780, 283, 101,
  780, 284, 71, 770, 285, 103, 770, 286, 71, 774, 287, 103, 774, 288, 71, 775, 289, 103, 775,
  290, 71, 807, 291, 103, 807, 292, 72, 770, 293, 104, 770, 296, 73, 771, 297, 105, 771, 298, 73,
  772, 299, 105, 772, 300, 73, 774, 301, 105, 774, 302, 73, 808, 303, 105, 808, 304, 73, 775,
  308, 74, 770, 309, 106, 770, 310, 75, 807, 311, 107, 807, 313, 76, 769, 314, 108, 769, 315, 76,
  807, 316, 108, 807, 317, 76, 780, 318, 108, 780, 323, 78, 769, 324, 110, 769, 325, 78, 807,
  326, 110, 807, 327, 78, 780, 328, 110, 780, 332, 79, 772, 333, 111, 772, 334, 79, 774, 335,
  111, 774, 336, 79, 779, 337, 111, 779, 340, 82, 769, 341, 114, 769, 342, 82, 807, 343, 114,
  807, 344, 82, 780, 345, 114, 780, 346, 83, 769, 347, 115, 769, 348, 83, 770, 349, 115, 770,
  350, 83, 807, 351, 115, 807, 352, 83, 780, 353, 115, 780, 354, 84, 807, 355, 116, 807, 356, 84,
  780, 357, 116, 780, 360, 85, 771, 361, 117, 771, 362, 85, 772, 363, 117, 772, 364, 85, 774,
  365, 117, 774, 366, 85, 778, 367, 117, 778, 368, 85, 779, 369, 117, 779, 370, 85, 808, 371,
  117, 808, 372, 87, 770, 373, 119, 770, 374, 89, 770, 375, 121, 770, 376, 89, 776, 377, 90, 769,
  378, 122, 769, 379, 90, 775, 380, 122, 775, 381, 90, 780, 382, 122, 780, 416, 79, 795, 417,
  111, 795, 431, 85, 795, 432, 117, 795, 461, 65, 780, 462, 97, 780, 463, 73, 780, 464, 105, 780,
  465, 79, 780, 466, 111, 780, 467, 85, 780, 468, 117, 780, 469, 220, 772, 470, 252, 772, 471,
  220, 769, 472, 252, 769, 473, 220, 780, 474, 252, 780, 475, 220, 768, 476, 252, 768, 478, 196,
  772, 479, 228, 772, 480, 550, 772, 481, 551, 772, 482, 198, 772, 483, 230, 772, 486, 71, 780,
  487, 103, 780, 488, 75, 780, 489, 107, 780, 490, 79, 808, 491, 111, 808, 492, 490, 772, 493,
  491, 772, 494, 439, 780, 495, 658, 780, 496, 106, 780, 500, 71, 769, 501, 103, 769, 504, 78,
  768, 505, 110, 768, 506, 197, 769, 507, 229, 769, 508, 198, 769, 509, 230, 769, 510, 216, 769,
  511, 248, 769, 512, 65, 783, 513, 97, 783, 514, 65, 785, 515, 97, 785, 516, 69, 783, 517, 101,
  783, 518, 69, 785, 519, 101, 785, 520, 73, 783, 521, 105, 783, 522, 73, 785, 523, 105, 785,
  524, 79, 783, 525, 111, 783, 526, 79, 785, 527, 111, 785, 528, 82, 783, 529, 114, 783, 530, 82,
  785, 531, 114, 785, 532, 85, 783, 533, 117, 783, 534, 85, 785, 535, 117, 785, 536, 83, 806,
  537, 115, 806, 538, 84, 806, 539, 116, 806, 542, 72, 780, 543, 104, 780, 550, 65, 775, 551, 97,
  775, 552, 69, 807, 553, 101, 807, 554, 214, 772, 555, 246, 772, 556, 213, 772, 557, 245, 772,
  558, 79, 775, 559, 111, 775, 560, 558, 772, 561, 559, 772, 562, 89, 772, 563, 121, 772]

/-- Letters of other scripts. -/
def compositionsOfOthers : List Nat := [
  902, 913, 769, 904, 917, 769, 905, 919, 769, 906, 921, 769, 908, 927, 769, 910, 933, 769, 911,
  937, 769, 912, 970, 769, 938, 921, 776, 939, 933, 776, 940, 945, 769, 941, 949, 769, 942, 951,
  769, 943, 953, 769, 944, 971, 769, 970, 953, 776, 971, 965, 776, 972, 959, 769, 973, 965, 769,
  974, 969, 769, 979, 978, 769, 980, 978, 776, 1024, 1045, 768, 1025, 1045, 776, 1027, 1043, 769,
  1031, 1030, 776, 1036, 1050, 769, 1037, 1048, 768, 1038, 1059, 774, 1049, 1048, 774, 1081,
  1080, 774, 1104, 1077, 768, 1105, 1077, 776, 1107, 1075, 769, 1111, 1110, 776, 1116, 1082, 769,
  1117, 1080, 768, 1118, 1091, 774, 1142, 1140, 783, 1143, 1141, 783, 1217, 1046, 774, 1218,
  1078, 774, 1232, 1040, 774, 1233, 1072, 774, 1234, 1040, 776, 1235, 1072, 776, 1238, 1045, 774,
  1239, 1077, 774, 1242, 1240, 776, 1243, 1241, 776, 1244, 1046, 776, 1245, 1078, 776, 1246,
  1047, 776, 1247, 1079, 776, 1250, 1048, 772, 1251, 1080, 772, 1252, 1048, 776, 1253, 1080, 776,
  1254, 1054, 776, 1255, 1086, 776, 1258, 1256, 776, 1259, 1257, 776, 1260, 1069, 776, 1261,
  1101, 776, 1262, 1059, 772, 1263, 1091, 772, 1264, 1059, 776, 1265, 1091, 776, 1266, 1059, 779,
  1267, 1091, 779, 1268, 1063, 776, 1269, 1095, 776, 1272, 1067, 776, 1273, 1099, 776, 1570,
  1575, 1619, 1571, 1575, 1620, 1572, 1608, 1620, 1573, 1575, 1621, 1574, 1610, 1620, 1728, 1749,
  1620, 1730, 1729, 1620, 1747, 1746, 1620, 2345, 2344, 2364, 2353, 2352, 2364, 2356, 2355, 2364,
  2507, 2503, 2494, 2508, 2503, 2519, 2888, 2887, 2902, 2891, 2887, 2878, 2892, 2887, 2903, 2964,
  2962, 3031, 3018, 3014, 3006, 3019, 3015, 3006, 3020, 3014, 3031, 3144, 3142, 3158, 3264, 3263,
  3285, 3271, 3270, 3285, 3272, 3270, 3286, 3274, 3270, 3266, 3275, 3274, 3285, 3402, 3398, 3390,
  3403, 3399, 3390, 3404, 3398, 3415, 3546, 3545, 3530, 3548, 3545, 3535, 3549, 3548, 3530, 3550,
  3545, 3551, 4134, 4133, 4142, 6918, 6917, 6965, 6920, 6919, 6965, 6922, 6921, 6965, 6924, 6923,
  6965, 6926, 6925, 6965, 6930, 6929, 6965, 6971, 6970, 6965, 6973, 6972, 6965, 6976, 6974, 6965,
  6977, 6975, 6965, 6979, 6978, 6965]

/-- Letters with several marks, and the scripts after these. -/
def compositionsOfFarther : List Nat := [
  7680, 65, 805, 7681, 97, 805, 7682, 66, 775, 7683, 98, 775, 7684, 66, 803, 7685, 98, 803, 7686,
  66, 817, 7687, 98, 817, 7688, 199, 769, 7689, 231, 769, 7690, 68, 775, 7691, 100, 775, 7692,
  68, 803, 7693, 100, 803, 7694, 68, 817, 7695, 100, 817, 7696, 68, 807, 7697, 100, 807, 7698,
  68, 813, 7699, 100, 813, 7700, 274, 768, 7701, 275, 768, 7702, 274, 769, 7703, 275, 769, 7704,
  69, 813, 7705, 101, 813, 7706, 69, 816, 7707, 101, 816, 7708, 552, 774, 7709, 553, 774, 7710,
  70, 775, 7711, 102, 775, 7712, 71, 772, 7713, 103, 772, 7714, 72, 775, 7715, 104, 775, 7716,
  72, 803, 7717, 104, 803, 7718, 72, 776, 7719, 104, 776, 7720, 72, 807, 7721, 104, 807, 7722,
  72, 814, 7723, 104, 814, 7724, 73, 816, 7725, 105, 816, 7726, 207, 769, 7727, 239, 769, 7728,
  75, 769, 7729, 107, 769, 7730, 75, 803, 7731, 107, 803, 7732, 75, 817, 7733, 107, 817, 7734,
  76, 803, 7735, 108, 803, 7736, 7734, 772, 7737, 7735, 772, 7738, 76, 817, 7739, 108, 817, 7740,
  76, 813, 7741, 108, 813, 7742, 77, 769, 7743, 109, 769, 7744, 77, 775, 7745, 109, 775, 7746,
  77, 803, 7747, 109, 803, 7748, 78, 775, 7749, 110, 775, 7750, 78, 803, 7751, 110, 803, 7752,
  78, 817, 7753, 110, 817, 7754, 78, 813, 7755, 110, 813, 7756, 213, 769, 7757, 245, 769, 7758,
  213, 776, 7759, 245, 776, 7760, 332, 768, 7761, 333, 768, 7762, 332, 769, 7763, 333, 769, 7764,
  80, 769, 7765, 112, 769, 7766, 80, 775, 7767, 112, 775, 7768, 82, 775, 7769, 114, 775, 7770,
  82, 803, 7771, 114, 803, 7772, 7770, 772, 7773, 7771, 772, 7774, 82, 817, 7775, 114, 817, 7776,
  83, 775, 7777, 115, 775, 7778, 83, 803, 7779, 115, 803, 7780, 346, 775, 7781, 347, 775, 7782,
  352, 775, 7783, 353, 775, 7784, 7778, 775, 7785, 7779, 775, 7786, 84, 775, 7787, 116, 775,
  7788, 84, 803, 7789, 116, 803, 7790, 84, 817, 7791, 116, 817, 7792, 84, 813, 7793, 116, 813,
  7794, 85, 804, 7795, 117, 804, 7796, 85, 816, 7797, 117, 816, 7798, 85, 813, 7799, 117, 813,
  7800, 360, 769, 7801, 361, 769, 7802, 362, 776, 7803, 363, 776, 7804, 86, 771, 7805, 118, 771,
  7806, 86, 803, 7807, 118, 803, 7808, 87, 768, 7809, 119, 768, 7810, 87, 769, 7811, 119, 769,
  7812, 87, 776, 7813, 119, 776, 7814, 87, 775, 7815, 119, 775, 7816, 87, 803, 7817, 119, 803,
  7818, 88, 775, 7819, 120, 775, 7820, 88, 776, 7821, 120, 776, 7822, 89, 775, 7823, 121, 775,
  7824, 90, 770, 7825, 122, 770, 7826, 90, 803, 7827, 122, 803, 7828, 90, 817, 7829, 122, 817,
  7830, 104, 817, 7831, 116, 776, 7832, 119, 778, 7833, 121, 778, 7835, 383, 775, 7840, 65, 803,
  7841, 97, 803, 7842, 65, 777, 7843, 97, 777, 7844, 194, 769, 7845, 226, 769, 7846, 194, 768,
  7847, 226, 768, 7848, 194, 777, 7849, 226, 777, 7850, 194, 771, 7851, 226, 771, 7852, 7840,
  770, 7853, 7841, 770, 7854, 258, 769, 7855, 259, 769, 7856, 258, 768, 7857, 259, 768, 7858,
  258, 777, 7859, 259, 777, 7860, 258, 771, 7861, 259, 771, 7862, 7840, 774, 7863, 7841, 774,
  7864, 69, 803, 7865, 101, 803, 7866, 69, 777, 7867, 101, 777, 7868, 69, 771, 7869, 101, 771,
  7870, 202, 769, 7871, 234, 769, 7872, 202, 768, 7873, 234, 768, 7874, 202, 777, 7875, 234, 777,
  7876, 202, 771, 7877, 234, 771, 7878, 7864, 770, 7879, 7865, 770, 7880, 73, 777, 7881, 105,
  777, 7882, 73, 803, 7883, 105, 803, 7884, 79, 803, 7885, 111, 803, 7886, 79, 777, 7887, 111,
  777, 7888, 212, 769, 7889, 244, 769, 7890, 212, 768, 7891, 244, 768, 7892, 212, 777, 7893, 244,
  777, 7894, 212, 771, 7895, 244, 771, 7896, 7884, 770, 7897, 7885, 770, 7898, 416, 769, 7899,
  417, 769, 7900, 416, 768, 7901, 417, 768, 7902, 416, 777, 7903, 417, 777, 7904, 416, 771, 7905,
  417, 771, 7906, 416, 803, 7907, 417, 803, 7908, 85, 803, 7909, 117, 803, 7910, 85, 777, 7911,
  117, 777, 7912, 431, 769, 7913, 432, 769, 7914, 431, 768, 7915, 432, 768, 7916, 431, 777, 7917,
  432, 777, 7918, 431, 771, 7919, 432, 771, 7920, 431, 803, 7921, 432, 803, 7922, 89, 768, 7923,
  121, 768, 7924, 89, 803, 7925, 121, 803, 7926, 89, 777, 7927, 121, 777, 7928, 89, 771, 7929,
  121, 771, 7936, 945, 787, 7937, 945, 788, 7938, 7936, 768, 7939, 7937, 768, 7940, 7936, 769,
  7941, 7937, 769, 7942, 7936, 834, 7943, 7937, 834, 7944, 913, 787, 7945, 913, 788, 7946, 7944,
  768, 7947, 7945, 768, 7948, 7944, 769, 7949, 7945, 769, 7950, 7944, 834, 7951, 7945, 834, 7952,
  949, 787, 7953, 949, 788, 7954, 7952, 768, 7955, 7953, 768, 7956, 7952, 769, 7957, 7953, 769,
  7960, 917, 787, 7961, 917, 788, 7962, 7960, 768, 7963, 7961, 768, 7964, 7960, 769, 7965, 7961,
  769, 7968, 951, 787, 7969, 951, 788, 7970, 7968, 768, 7971, 7969, 768, 7972, 7968, 769, 7973,
  7969, 769, 7974, 7968, 834, 7975, 7969, 834, 7976, 919, 787, 7977, 919, 788, 7978, 7976, 768,
  7979, 7977, 768, 7980, 7976, 769, 7981, 7977, 769, 7982, 7976, 834, 7983, 7977, 834, 7984, 953,
  787, 7985, 953, 788, 7986, 7984, 768, 7987, 7985, 768, 7988, 7984, 769, 7989, 7985, 769, 7990,
  7984, 834, 7991, 7985, 834, 7992, 921, 787, 7993, 921, 788, 7994, 7992, 768, 7995, 7993, 768,
  7996, 7992, 769, 7997, 7993, 769, 7998, 7992, 834, 7999, 7993, 834, 8000, 959, 787, 8001, 959,
  788, 8002, 8000, 768, 8003, 8001, 768, 8004, 8000, 769, 8005, 8001, 769, 8008, 927, 787, 8009,
  927, 788, 8010, 8008, 768, 8011, 8009, 768, 8012, 8008, 769, 8013, 8009, 769, 8016, 965, 787,
  8017, 965, 788, 8018, 8016, 768, 8019, 8017, 768, 8020, 8016, 769, 8021, 8017, 769, 8022, 8016,
  834, 8023, 8017, 834, 8025, 933, 788, 8027, 8025, 768, 8029, 8025, 769, 8031, 8025, 834, 8032,
  969, 787, 8033, 969, 788, 8034, 8032, 768, 8035, 8033, 768, 8036, 8032, 769, 8037, 8033, 769,
  8038, 8032, 834, 8039, 8033, 834, 8040, 937, 787, 8041, 937, 788, 8042, 8040, 768, 8043, 8041,
  768, 8044, 8040, 769, 8045, 8041, 769, 8046, 8040, 834, 8047, 8041, 834, 8048, 945, 768, 8050,
  949, 768, 8052, 951, 768, 8054, 953, 768, 8056, 959, 768, 8058, 965, 768, 8060, 969, 768, 8064,
  7936, 837, 8065, 7937, 837, 8066, 7938, 837, 8067, 7939, 837, 8068, 7940, 837, 8069, 7941, 837,
  8070, 7942, 837, 8071, 7943, 837, 8072, 7944, 837, 8073, 7945, 837, 8074, 7946, 837, 8075,
  7947, 837, 8076, 7948, 837, 8077, 7949, 837, 8078, 7950, 837, 8079, 7951, 837, 8080, 7968, 837,
  8081, 7969, 837, 8082, 7970, 837, 8083, 7971, 837, 8084, 7972, 837, 8085, 7973, 837, 8086,
  7974, 837, 8087, 7975, 837, 8088, 7976, 837, 8089, 7977, 837, 8090, 7978, 837, 8091, 7979, 837,
  8092, 7980, 837, 8093, 7981, 837, 8094, 7982, 837, 8095, 7983, 837, 8096, 8032, 837, 8097,
  8033, 837, 8098, 8034, 837, 8099, 8035, 837, 8100, 8036, 837, 8101, 8037, 837, 8102, 8038, 837,
  8103, 8039, 837, 8104, 8040, 837, 8105, 8041, 837, 8106, 8042, 837, 8107, 8043, 837, 8108,
  8044, 837, 8109, 8045, 837, 8110, 8046, 837, 8111, 8047, 837, 8112, 945, 774, 8113, 945, 772,
  8114, 8048, 837, 8115, 945, 837, 8116, 940, 837, 8118, 945, 834, 8119, 8118, 837, 8120, 913,
  774, 8121, 913, 772, 8122, 913, 768, 8124, 913, 837, 8130, 8052, 837, 8131, 951, 837, 8132,
  942, 837, 8134, 951, 834, 8135, 8134, 837, 8136, 917, 768, 8138, 919, 768, 8140, 919, 837,
  8144, 953, 774, 8145, 953, 772, 8146, 970, 768, 8150, 953, 834, 8151, 970, 834, 8152, 921, 774,
  8153, 921, 772, 8154, 921, 768, 8160, 965, 774, 8161, 965, 772, 8162, 971, 768, 8164, 961, 787,
  8165, 961, 788, 8166, 965, 834, 8167, 971, 834, 8168, 933, 774, 8169, 933, 772, 8170, 933, 768,
  8172, 929, 788, 8178, 8060, 837, 8179, 969, 837, 8180, 974, 837, 8182, 969, 834, 8183, 8182,
  837, 8184, 927, 768, 8186, 937, 768, 8188, 937, 837, 12364, 12363, 12441, 12366, 12365, 12441,
  12368, 12367, 12441, 12370, 12369, 12441, 12372, 12371, 12441, 12374, 12373, 12441, 12376,
  12375, 12441, 12378, 12377, 12441, 12380, 12379, 12441, 12382, 12381, 12441, 12384, 12383,
  12441, 12386, 12385, 12441, 12389, 12388, 12441, 12391, 12390, 12441, 12393, 12392, 12441,
  12400, 12399, 12441, 12401, 12399, 12442, 12403, 12402, 12441, 12404, 12402, 12442, 12406,
  12405, 12441, 12407, 12405, 12442, 12409, 12408, 12441, 12410, 12408, 12442, 12412, 12411,
  12441, 12413, 12411, 12442, 12436, 12358, 12441, 12446, 12445, 12441, 12460, 12459, 12441,
  12462, 12461, 12441, 12464, 12463, 12441, 12466, 12465, 12441, 12468, 12467, 12441, 12470,
  12469, 12441, 12472, 12471, 12441, 12474, 12473, 12441, 12476, 12475, 12441, 12478, 12477,
  12441, 12480, 12479, 12441, 12482, 12481, 12441, 12485, 12484, 12441, 12487, 12486, 12441,
  12489, 12488, 12441, 12496, 12495, 12441, 12497, 12495, 12442, 12499, 12498, 12441, 12500,
  12498, 12442, 12502, 12501, 12441, 12503, 12501, 12442, 12505, 12504, 12441, 12506, 12504,
  12442, 12508, 12507, 12441, 12509, 12507, 12442, 12532, 12454, 12441, 12535, 12527, 12441,
  12536, 12528, 12441, 12537, 12529, 12441, 12538, 12530, 12441, 12542, 12541, 12441, 69786,
  69785, 69818, 69788, 69787, 69818, 69803, 69797, 69818, 69934, 69937, 69927, 69935, 69938,
  69927, 70475, 70471, 70462, 70476, 70471, 70487, 70843, 70841, 70842, 70844, 70841, 70832,
  70846, 70841, 70845, 71098, 71096, 71087, 71099, 71097, 71087, 71992, 71989, 71984]

/-- Characters that are made of two: character, first, second. -/
def compositions : List Nat :=
  compositionsOfLatin ++ compositionsOfOthers ++ compositionsOfFarther

/-- Rows of marks of one class: first, last, class. -/
def markRows : List Nat := [
  768, 788, 230, 789, 789, 232, 790, 793, 220, 794, 794, 232, 795, 795, 216, 796, 800, 220, 801,
  802, 202, 803, 806, 220, 807, 808, 202, 809, 819, 220, 820, 824, 1, 825, 828, 220, 829, 836,
  230, 837, 837, 240, 838, 838, 230, 839, 841, 220, 842, 844, 230, 845, 846, 220, 848, 850, 230,
  851, 854, 220, 855, 855, 230, 856, 856, 232, 857, 858, 220, 859, 859, 230, 860, 860, 233, 861,
  862, 234, 863, 863, 233, 864, 865, 234, 866, 866, 233, 867, 879, 230, 1155, 1159, 230, 1425,
  1425, 220, 1426, 1429, 230, 1430, 1430, 220, 1431, 1433, 230, 1434, 1434, 222, 1435, 1435, 220,
  1436, 1441, 230, 1442, 1447, 220, 1448, 1449, 230, 1450, 1450, 220, 1451, 1452, 230, 1453,
  1453, 222, 1454, 1454, 228, 1455, 1455, 230, 1456, 1456, 10, 1457, 1457, 11, 1458, 1458, 12,
  1459, 1459, 13, 1460, 1460, 14, 1461, 1461, 15, 1462, 1462, 16, 1463, 1463, 17, 1464, 1464, 18,
  1465, 1466, 19, 1467, 1467, 20, 1468, 1468, 21, 1469, 1469, 22, 1471, 1471, 23, 1473, 1473, 24,
  1474, 1474, 25, 1476, 1476, 230, 1477, 1477, 220, 1479, 1479, 18, 1552, 1559, 230, 1560, 1560,
  30, 1561, 1561, 31, 1562, 1562, 32, 1611, 1611, 27, 1612, 1612, 28, 1613, 1613, 29, 1614, 1614,
  30, 1615, 1615, 31, 1616, 1616, 32, 1617, 1617, 33, 1618, 1618, 34, 1619, 1620, 230, 1621,
  1622, 220, 1623, 1627, 230, 1628, 1628, 220, 1629, 1630, 230, 1631, 1631, 220, 1648, 1648, 35,
  1750, 1756, 230, 1759, 1762, 230, 1763, 1763, 220, 1764, 1764, 230, 1767, 1768, 230, 1770,
  1770, 220, 1771, 1772, 230, 1773, 1773, 220, 1809, 1809, 36, 1840, 1840, 230, 1841, 1841, 220,
  1842, 1843, 230, 1844, 1844, 220, 1845, 1846, 230, 1847, 1849, 220, 1850, 1850, 230, 1851,
  1852, 220, 1853, 1853, 230, 1854, 1854, 220, 1855, 1857, 230, 1858, 1858, 220, 1859, 1859, 230,
  1860, 1860, 220, 1861, 1861, 230, 1862, 1862, 220, 1863, 1863, 230, 1864, 1864, 220, 1865,
  1866, 230, 2027, 2033, 230, 2034, 2034, 220, 2035, 2035, 230, 2045, 2045, 220, 2070, 2073, 230,
  2075, 2083, 230, 2085, 2087, 230, 2089, 2093, 230, 2137, 2139, 220, 2200, 2200, 230, 2201,
  2203, 220, 2204, 2207, 230, 2250, 2254, 230, 2255, 2259, 220, 2260, 2273, 230, 2275, 2275, 220,
  2276, 2277, 230, 2278, 2278, 220, 2279, 2280, 230, 2281, 2281, 220, 2282, 2284, 230, 2285,
  2287, 220, 2288, 2288, 27, 2289, 2289, 28, 2290, 2290, 29, 2291, 2293, 230, 2294, 2294, 220,
  2295, 2296, 230, 2297, 2298, 220, 2299, 2303, 230, 2364, 2364, 7, 2381, 2381, 9, 2385, 2385,
  230, 2386, 2386, 220, 2387, 2388, 230, 2492, 2492, 7, 2509, 2509, 9, 2558, 2558, 230, 2620,
  2620, 7, 2637, 2637, 9, 2748, 2748, 7, 2765, 2765, 9, 2876, 2876, 7, 2893, 2893, 9, 3021, 3021,
  9, 3132, 3132, 7, 3149, 3149, 9, 3157, 3157, 84, 3158, 3158, 91, 3260, 3260, 7, 3277, 3277, 9,
  3387, 3388, 9, 3405, 3405, 9, 3530, 3530, 9, 3640, 3641, 103, 3642, 3642, 9, 3656, 3659, 107,
  3768, 3769, 118, 3770, 3770, 9, 3784, 3787, 122, 3864, 3865, 220, 3893, 3893, 220, 3895, 3895,
  220, 3897, 3897, 216, 3953, 3953, 129, 3954, 3954, 130, 3956, 3956, 132, 3962, 3965, 130, 3968,
  3968, 130, 3970, 3971, 230, 3972, 3972, 9, 3974, 3975, 230, 4038, 4038, 220, 4151, 4151, 7,
  4153, 4154, 9, 4237, 4237, 220, 4957, 4959, 230, 5908, 5909, 9, 5940, 5940, 9, 6098, 6098, 9,
  6109, 6109, 230, 6313, 6313, 228, 6457, 6457, 222, 6458, 6458, 230, 6459, 6459, 220, 6679,
  6679, 230, 6680, 6680, 220, 6752, 6752, 9, 6773, 6780, 230, 6783, 6783, 220, 6832, 6836, 230,
  6837, 6842, 220, 6843, 6844, 230, 6845, 6845, 220, 6847, 6848, 220, 6849, 6850, 230, 6851,
  6852, 220, 6853, 6857, 230, 6858, 6858, 220, 6859, 6862, 230, 6964, 6964, 7, 6980, 6980, 9,
  7019, 7019, 230, 7020, 7020, 220, 7021, 7027, 230, 7082, 7083, 9, 7142, 7142, 7, 7154, 7155, 9,
  7223, 7223, 7, 7376, 7378, 230, 7380, 7380, 1, 7381, 7385, 220, 7386, 7387, 230, 7388, 7391,
  220, 7392, 7392, 230, 7394, 7400, 1, 7405, 7405, 220, 7412, 7412, 230, 7416, 7417, 230, 7616,
  7617, 230, 7618, 7618, 220, 7619, 7625, 230, 7626, 7626, 220, 7627, 7628, 230, 7629, 7629, 234,
  7630, 7630, 214, 7631, 7631, 220, 7632, 7632, 202, 7633, 7669, 230, 7670, 7670, 232, 7671,
  7672, 228, 7673, 7673, 220, 7674, 7674, 218, 7675, 7675, 230, 7676, 7676, 233, 7677, 7677, 220,
  7678, 7678, 230, 7679, 7679, 220, 8400, 8401, 230, 8402, 8403, 1, 8404, 8407, 230, 8408, 8410,
  1, 8411, 8412, 230, 8417, 8417, 230, 8421, 8422, 1, 8423, 8423, 230, 8424, 8424, 220, 8425,
  8425, 230, 8426, 8427, 1, 8428, 8431, 220, 8432, 8432, 230, 11503, 11505, 230, 11647, 11647, 9,
  11744, 11775, 230, 12330, 12330, 218, 12331, 12331, 228, 12332, 12332, 232, 12333, 12333, 222,
  12334, 12335, 224, 12441, 12442, 8, 42607, 42607, 230, 42612, 42621, 230, 42654, 42655, 230,
  42736, 42737, 230, 43014, 43014, 9, 43052, 43052, 9, 43204, 43204, 9, 43232, 43249, 230, 43307,
  43309, 220, 43347, 43347, 9, 43443, 43443, 7, 43456, 43456, 9, 43696, 43696, 230, 43698, 43699,
  230, 43700, 43700, 220, 43703, 43704, 230, 43710, 43711, 230, 43713, 43713, 230, 43766, 43766,
  9, 44013, 44013, 9, 64286, 64286, 26, 65056, 65062, 230, 65063, 65069, 220, 65070, 65071, 230,
  66045, 66045, 220, 66272, 66272, 220, 66422, 66426, 230, 68109, 68109, 220, 68111, 68111, 230,
  68152, 68152, 230, 68153, 68153, 1, 68154, 68154, 220, 68159, 68159, 9, 68325, 68325, 230,
  68326, 68326, 220, 68900, 68903, 230, 69291, 69292, 230, 69446, 69447, 220, 69448, 69450, 230,
  69451, 69451, 220, 69452, 69452, 230, 69453, 69456, 220, 69506, 69506, 230, 69507, 69507, 220,
  69508, 69508, 230, 69509, 69509, 220, 69702, 69702, 9, 69744, 69744, 9, 69759, 69759, 9, 69817,
  69817, 9, 69818, 69818, 7, 69888, 69890, 230, 69939, 69940, 9, 70003, 70003, 7, 70080, 70080,
  9, 70090, 70090, 7, 70197, 70197, 9, 70198, 70198, 7, 70377, 70377, 7, 70378, 70378, 9, 70459,
  70460, 7, 70477, 70477, 9, 70502, 70508, 230, 70512, 70516, 230, 70722, 70722, 9, 70726, 70726,
  7, 70750, 70750, 230, 70850, 70850, 9, 70851, 70851, 7, 71103, 71103, 9, 71104, 71104, 7,
  71231, 71231, 9, 71350, 71350, 9, 71351, 71351, 7, 71467, 71467, 9, 71737, 71737, 9, 71738,
  71738, 7, 71997, 71998, 9, 72003, 72003, 7, 72160, 72160, 9, 72244, 72244, 9, 72263, 72263, 9,
  72345, 72345, 9, 72767, 72767, 9, 73026, 73026, 7, 73028, 73029, 9, 73111, 73111, 9, 92912,
  92916, 1, 92976, 92982, 230, 94192, 94193, 6, 113822, 113822, 1, 119141, 119142, 216, 119143,
  119145, 1, 119149, 119149, 226, 119150, 119154, 216, 119163, 119170, 220, 119173, 119177, 230,
  119178, 119179, 220, 119210, 119213, 230, 119362, 119364, 230, 122880, 122886, 230, 122888,
  122904, 230, 122907, 122913, 230, 122915, 122916, 230, 122918, 122922, 230, 123184, 123190,
  230, 123566, 123566, 230, 123628, 123631, 230, 125136, 125142, 220, 125252, 125257, 230,
  125258, 125258, 7]

/-- Rows of signs that stand for rows of others: first, last, image of the first. -/
def imageRowsOfSigns : List Nat := [
  8308, 8313, 52, 8320, 8329, 48, 9312, 9320, 49, 9398, 9423, 65, 9424, 9449, 97, 12899, 12901,
  4357, 12905, 12909, 4366, 13028, 13033, 12490, 13038, 13042, 12510, 13045, 13050, 12520, 13051,
  13054, 12527, 65089, 65092, 12300, 65281, 65295, 33, 65306, 65312, 58, 65339, 65342, 91, 65371,
  65374, 123, 65513, 65516, 8592, 127280, 127305, 65]

/-- Signs that stand for single others. -/
def imagesOfSigns : List Nat := [
  160, 32, 178, 50, 179, 51, 185, 49, 894, 59, 3852, 3851, 8175, 96, 8192, 32, 8193, 32, 8194, 32,
  8195, 32, 8196, 32, 8197, 32, 8198, 32, 8199, 32, 8200, 32, 8201, 32, 8202, 32, 8209, 8208, 8228,
  46, 8239, 32, 8287, 32, 8304, 48, 8314, 43, 8315, 8722, 8316, 61, 8317, 40, 8318, 41, 8330, 43,
  8331, 8722, 8332, 61, 8333, 40, 8334, 41, 8512, 8721, 9001, 12296, 9002, 12297, 9450, 48, 11935,
  27597, 12019, 40863, 12032, 19968, 12033, 20008, 12034, 20022, 12035, 20031, 12036, 20057, 12037,
  20101, 12038, 20108, 12039, 20128, 12040, 20154, 12041, 20799, 12042, 20837, 12043, 20843, 12044,
  20866, 12045, 20886, 12046, 20907, 12047, 20960, 12048, 20981, 12049, 20992, 12050, 21147, 12051,
  21241, 12052, 21269, 12053, 21274, 12054, 21304, 12055, 21313, 12056, 21340, 12057, 21353, 12058,
  21378, 12059, 21430, 12060, 21448, 12061, 21475, 12062, 22231, 12063, 22303, 12064, 22763, 12065,
  22786, 12066, 22794, 12067, 22805, 12068, 22823, 12069, 22899, 12070, 23376, 12071, 23424, 12072,
  23544, 12073, 23567, 12074, 23586, 12075, 23608, 12076, 23662, 12077, 23665, 12078, 24027, 12079,
  24037, 12080, 24049, 12081, 24062, 12082, 24178, 12083, 24186, 12084, 24191, 12085, 24308, 12086,
  24318, 12087, 24331, 12088, 24339, 12089, 24400, 12090, 24417, 12091, 24435, 12092, 24515, 12093,
  25096, 12094, 25142, 12095, 25163, 12096, 25903, 12097, 25908, 12098, 25991, 12099, 26007, 12100,
  26020, 12101, 26041, 12102, 26080, 12103, 26085, 12104, 26352, 12105, 26376, 12106, 26408, 12107,
  27424, 12108, 27490, 12109, 27513, 12110, 27571, 12111, 27595, 12112, 27604, 12113, 27611, 12114,
  27663, 12115, 27668, 12116, 27700, 12117, 28779, 12118, 29226, 12119, 29238, 12120, 29243, 12121,
  29247, 12122, 29255, 12123, 29273, 12124, 29275, 12125, 29356, 12126, 29572, 12127, 29577, 12128,
  29916, 12129, 29926, 12130, 29976, 12131, 29983, 12132, 29992, 12133, 30000, 12134, 30091, 12135,
  30098, 12136, 30326, 12137, 30333, 12138, 30382, 12139, 30399, 12140, 30446, 12141, 30683, 12142,
  30690, 12143, 30707, 12144, 31034, 12145, 31160, 12146, 31166, 12147, 31348, 12148, 31435, 12149,
  31481, 12150, 31859, 12151, 31992, 12152, 32566, 12153, 32593, 12154, 32650, 12155, 32701, 12156,
  32769, 12157, 32780, 12158, 32786, 12159, 32819, 12160, 32895, 12161, 32905, 12162, 33251, 12163,
  33258, 12164, 33267, 12165, 33276, 12166, 33292, 12167, 33307, 12168, 33311, 12169, 33390, 12170,
  33394, 12171, 33400, 12172, 34381, 12173, 34411, 12174, 34880, 12175, 34892, 12176, 34915, 12177,
  35198, 12178, 35211, 12179, 35282, 12180, 35328, 12181, 35895, 12182, 35910, 12183, 35925, 12184,
  35960, 12185, 35997, 12186, 36196, 12187, 36208, 12188, 36275, 12189, 36523, 12190, 36554, 12191,
  36763, 12192, 36784, 12193, 36789, 12194, 37009, 12195, 37193, 12196, 37318, 12197, 37324, 12198,
  37329, 12199, 38263, 12200, 38272, 12201, 38428, 12202, 38582, 12203, 38585, 12204, 38632, 12205,
  38737, 12206, 38750, 12207, 38754, 12208, 38761, 12209, 38859, 12210, 38893, 12211, 38899, 12212,
  38913, 12213, 39080, 12214, 39131, 12215, 39135, 12216, 39318, 12217, 39321, 12218, 39340, 12219,
  39592, 12220, 39640, 12221, 39647, 12222, 39717, 12223, 39727, 12224, 39730, 12225, 39740, 12226,
  39770, 12227, 40165, 12228, 40565, 12229, 40575, 12230, 40613, 12231, 40635, 12232, 40643, 12233,
  40653, 12234, 40657, 12235, 40697, 12236, 40701, 12237, 40718, 12238, 40723, 12239, 40736, 12240,
  40763, 12241, 40778, 12242, 40786, 12243, 40845, 12244, 40860, 12245, 40864, 12288, 32, 12342,
  12306, 12690, 19968, 12691, 20108, 12692, 19977, 12693, 22235, 12694, 19978, 12695, 20013, 12696,
  19979, 12697, 30002, 12698, 20057, 12699, 19993, 12700, 19969, 12701, 22825, 12702, 22320, 12703,
  20154, 12868, 21839, 12869, 24188, 12870, 25991, 12871, 31631, 12896, 4352, 12897, 4354, 12898,
  4355, 12902, 4361, 12903, 4363, 12904, 4364, 12928, 19968, 12929, 20108, 12930, 19977, 12931,
  22235, 12932, 20116, 12933, 20845, 12934, 19971, 12935, 20843, 12936, 20061, 12937, 21313, 12938,
  26376, 12939, 28779, 12940, 27700, 12941, 26408, 12942, 37329, 12943, 22303, 12944, 26085, 12945,
  26666, 12946, 26377, 12947, 31038, 12948, 21517, 12949, 29305, 12950, 36001, 12951, 31069, 12952,
  21172, 12953, 31192, 12954, 30007, 12955, 22899, 12956, 36969, 12957, 20778, 12958, 21360, 12959,
  27880, 12960, 38917, 12961, 20241, 12962, 20889, 12963, 27491, 12964, 19978, 12965, 20013, 12966,
  19979, 12967, 24038, 12968, 21491, 12969, 21307, 12970, 23447, 12971, 23398, 12972, 30435, 12973,
  20225, 12974, 36039, 12975, 21332, 12976, 22812, 13008, 12450, 13009, 12452, 13010, 12454, 13011,
  12456, 13012, 12458, 13013, 12459, 13014, 12461, 13015, 12463, 13016, 12465, 13017, 12467, 13018,
  12469, 13019, 12471, 13020, 12473, 13021, 12475, 13022, 12477, 13023, 12479, 13024, 12481, 13025,
  12484, 13026, 12486, 13027, 12488, 13034, 12498, 13035, 12501, 13036, 12504, 13037, 12507, 13043,
  12516, 13044, 12518, 64297, 43, 65040, 44, 65041, 12289, 65042, 12290, 65043, 58, 65044, 59,
  65045, 33, 65046, 63, 65047, 12310, 65048, 12311, 65073, 8212, 65074, 8211, 65077, 40, 65078, 41,
  65079, 123, 65080, 125, 65081, 12308, 65082, 12309, 65083, 12304, 65084, 12305, 65085, 12298,
  65086, 12299, 65087, 12296, 65088, 12297, 65095, 91, 65096, 93, 65104, 44, 65105, 12289, 65106,
  46, 65108, 59, 65109, 58, 65110, 63, 65111, 33, 65112, 8212, 65113, 40, 65114, 41, 65115, 123,
  65116, 125, 65117, 12308, 65118, 12309, 65119, 35, 65120, 38, 65121, 42, 65122, 43, 65123, 45,
  65124, 60, 65125, 62, 65126, 61, 65128, 92, 65129, 36, 65130, 37, 65131, 64, 65344, 96, 65375,
  10629, 65376, 10630, 65377, 12290, 65378, 12300, 65379, 12301, 65380, 12289, 65381, 12539, 65504,
  162, 65505, 163, 65506, 172, 65508, 166, 65509, 165, 65510, 8361, 65512, 9474, 65517, 9632, 65518,
  9675, 120513, 8711, 120539, 8706, 120571, 8711, 120597, 8706, 120629, 8711, 120655, 8706, 120687,
  8711, 120713, 8706, 120745, 8711, 120771, 8706, 127275, 67, 127276, 82, 127490, 12469, 127504,
  25163, 127505, 23383, 127506, 21452, 127508, 20108, 127509, 22810, 127510, 35299, 127511, 22825,
  127512, 20132, 127513, 26144, 127514, 28961, 127515, 26009, 127516, 21069, 127517, 24460, 127518,
  20877, 127519, 26032, 127520, 21021, 127521, 32066, 127522, 29983, 127523, 36009, 127524, 22768,
  127525, 21561, 127526, 28436, 127527, 25237, 127528, 25429, 127529, 19968, 127530, 19977, 127531,
  36938, 127532, 24038, 127533, 20013, 127534, 21491, 127535, 25351, 127536, 36208, 127537, 25171,
  127538, 31105, 127539, 31354, 127540, 21512, 127541, 28288, 127542, 26377, 127543, 26376, 127544,
  30003, 127545, 21106, 127546, 21942, 127547, 37197, 127568, 24471, 127569, 21487]

/-- Signs from 168 on that stand for several others: the sign, how many, and these. -/
def expansionsOfPlainSigns : List Nat := [
  168, 2, 32, 776, 175, 2, 32, 772, 180, 2, 32, 769, 184, 2, 32, 807, 188, 3, 49, 8260, 52, 189, 3,
  49, 8260, 50, 190, 3, 51, 8260, 52, 728, 2, 32, 774, 729, 2, 32, 775, 730, 2, 32, 778, 731, 2, 32,
  808, 732, 2, 32, 771, 733, 2, 32, 779, 890, 2, 32, 837, 900, 2, 32, 769, 8125, 2, 32, 787, 8127,
  2, 32, 787, 8128, 2, 32, 834, 8174, 3, 32, 776, 769, 8189, 2, 32, 769, 8190, 2, 32, 788, 8215, 2,
  32, 819, 8229, 2, 46, 46, 8230, 3, 46, 46, 46, 8243, 2, 8242, 8242, 8244, 3, 8242, 8242, 8242,
  8246, 2, 8245, 8245, 8247, 3, 8245, 8245, 8245, 8252, 2, 33, 33, 8254, 2, 32, 773, 8263, 2, 63,
  63, 8264, 2, 63, 33, 8265, 2, 33, 63, 8279, 4, 8242, 8242, 8242, 8242, 8360, 2, 82, 115, 8448, 3,
  97, 47, 99, 8449, 3, 97, 47, 115, 8451, 2, 176, 67, 8453, 3, 99, 47, 111, 8454, 3, 99, 47, 117,
  8457, 2, 176, 70, 8470, 2, 78, 111, 8480, 2, 83, 77, 8481, 3, 84, 69, 76, 8482, 2, 84, 77, 8507,
  3, 70, 65, 88, 8528, 3, 49, 8260, 55, 8529, 3, 49, 8260, 57, 8530, 4, 49, 8260, 49, 48, 8531, 3,
  49, 8260, 51, 8532, 3, 50, 8260, 51, 8533, 3, 49, 8260, 53, 8534, 3, 50, 8260, 53, 8535, 3, 51,
  8260, 53, 8536, 3, 52, 8260, 53, 8537, 3, 49, 8260, 54, 8538, 3, 53, 8260, 54, 8539, 3, 49, 8260,
  56, 8540, 3, 51, 8260, 56, 8541, 3, 53, 8260, 56, 8542, 3, 55, 8260, 56, 8543, 2, 49, 8260, 8585,
  3, 48, 8260, 51, 8748, 2, 8747, 8747, 8749, 3, 8747, 8747, 8747, 8751, 2, 8750, 8750, 8752, 3,
  8750, 8750, 8750, 9321, 2, 49, 48, 9322, 2, 49, 49, 9323, 2, 49, 50, 9324, 2, 49, 51, 9325, 2, 49,
  52, 9326, 2, 49, 53, 9327, 2, 49, 54, 9328, 2, 49, 55, 9329, 2, 49, 56, 9330, 2, 49, 57, 9331, 2,
  50, 48, 9332, 3, 40, 49, 41, 9333, 3, 40, 50, 41, 9334, 3, 40, 51, 41, 9335, 3, 40, 52, 41, 9336,
  3, 40, 53, 41, 9337, 3, 40, 54, 41, 9338, 3, 40, 55, 41, 9339, 3, 40, 56, 41, 9340, 3, 40, 57, 41,
  9341, 4, 40, 49, 48, 41, 9342, 4, 40, 49, 49, 41, 9343, 4, 40, 49, 50, 41, 9344, 4, 40, 49, 51,
  41, 9345, 4, 40, 49, 52, 41, 9346, 4, 40, 49, 53, 41, 9347, 4, 40, 49, 54, 41, 9348, 4, 40, 49,
  55, 41, 9349, 4, 40, 49, 56, 41, 9350, 4, 40, 49, 57, 41, 9351, 4, 40, 50, 48, 41, 9352, 2, 49,
  46, 9353, 2, 50, 46, 9354, 2, 51, 46, 9355, 2, 52, 46, 9356, 2, 53, 46, 9357, 2, 54, 46, 9358, 2,
  55, 46, 9359, 2, 56, 46, 9360, 2, 57, 46, 9361, 3, 49, 48, 46, 9362, 3, 49, 49, 46, 9363, 3, 49,
  50, 46, 9364, 3, 49, 51, 46, 9365, 3, 49, 52, 46, 9366, 3, 49, 53, 46, 9367, 3, 49, 54, 46, 9368,
  3, 49, 55, 46, 9369, 3, 49, 56, 46, 9370, 3, 49, 57, 46, 9371, 3, 50, 48, 46, 9372, 3, 40, 97, 41,
  9373, 3, 40, 98, 41, 9374, 3, 40, 99, 41, 9375, 3, 40, 100, 41, 9376, 3, 40, 101, 41, 9377, 3, 40,
  102, 41, 9378, 3, 40, 103, 41, 9379, 3, 40, 104, 41, 9380, 3, 40, 105, 41, 9381, 3, 40, 106, 41,
  9382, 3, 40, 107, 41, 9383, 3, 40, 108, 41, 9384, 3, 40, 109, 41, 9385, 3, 40, 110, 41, 9386, 3,
  40, 111, 41, 9387, 3, 40, 112, 41, 9388, 3, 40, 113, 41, 9389, 3, 40, 114, 41, 9390, 3, 40, 115,
  41, 9391, 3, 40, 116, 41, 9392, 3, 40, 117, 41, 9393, 3, 40, 118, 41, 9394, 3, 40, 119, 41, 9395,
  3, 40, 120, 41, 9396, 3, 40, 121, 41, 9397, 3, 40, 122, 41, 10764, 4, 8747, 8747, 8747, 8747,
  10868, 3, 58, 58, 61, 10869, 2, 61, 61, 10870, 3, 61, 61, 61, 10972, 2, 10973, 824, 12443, 2, 32,
  12441, 12444, 2, 32, 12442, 12800, 3, 40, 4352, 41, 12801, 3, 40, 4354, 41, 12802, 3, 40, 4355,
  41, 12803, 3, 40, 4357, 41, 12804, 3, 40, 4358, 41, 12805, 3, 40, 4359, 41, 12806, 3, 40, 4361,
  41, 12807, 3, 40, 4363, 41, 12808, 3, 40, 4364, 41, 12809, 3, 40, 4366, 41, 12810, 3, 40, 4367,
  41, 12811, 3, 40, 4368, 41, 12812, 3, 40, 4369, 41, 12813, 3, 40, 4370, 41, 12814, 4, 40, 4352,
  4449, 41, 12815, 4, 40, 4354, 4449, 41, 12816, 4, 40, 4355, 4449, 41, 12817, 4, 40, 4357, 4449,
  41, 12818, 4, 40, 4358, 4449, 41, 12819, 4, 40, 4359, 4449, 41, 12820, 4, 40, 4361, 4449, 41,
  12821, 4, 40, 4363, 4449, 41, 12822, 4, 40, 4364, 4449, 41, 12823, 4, 40, 4366, 4449, 41, 12824,
  4, 40, 4367, 4449, 41, 12825, 4, 40, 4368, 4449, 41, 12826, 4, 40, 4369, 4449, 41, 12827, 4, 40,
  4370, 4449, 41, 12828, 4, 40, 4364, 4462, 41, 12829, 7, 40, 4363, 4457, 4364, 4453, 4523, 41,
  12830, 6, 40, 4363, 4457, 4370, 4462, 41, 12832, 3, 40, 19968, 41, 12833, 3, 40, 20108, 41, 12834,
  3, 40, 19977, 41, 12835, 3, 40, 22235, 41, 12836, 3, 40, 20116, 41, 12837, 3, 40, 20845, 41,
  12838, 3, 40, 19971, 41, 12839, 3, 40, 20843, 41, 12840, 3, 40, 20061, 41, 12841, 3, 40, 21313,
  41, 12842, 3, 40, 26376, 41, 12843, 3, 40, 28779, 41, 12844, 3, 40, 27700, 41, 12845, 3, 40,
  26408, 41, 12846, 3, 40, 37329, 41, 12847, 3, 40, 22303, 41, 12848, 3, 40, 26085, 41, 12849, 3,
  40, 26666, 41, 12850, 3, 40, 26377, 41, 12851, 3, 40, 31038, 41, 12852, 3, 40, 21517, 41, 12853,
  3, 40, 29305, 41, 12854, 3, 40, 36001, 41, 12855, 3, 40, 31069, 41, 12856, 3, 40, 21172, 41,
  12857, 3, 40, 20195, 41, 12858, 3, 40, 21628, 41, 12859, 3, 40, 23398, 41, 12860, 3, 40, 30435,
  41, 12861, 3, 40, 20225, 41, 12862, 3, 40, 36039, 41, 12863, 3, 40, 21332, 41, 12864, 3, 40,
  31085, 41, 12865, 3, 40, 20241, 41, 12866, 3, 40, 33258, 41, 12867, 3, 40, 33267, 41, 12880, 3,
  80, 84, 69, 12881, 2, 50, 49, 12882, 2, 50, 50, 12883, 2, 50, 51, 12884, 2, 50, 52, 12885, 2, 50,
  53, 12886, 2, 50, 54, 12887, 2, 50, 55, 12888, 2, 50, 56, 12889, 2, 50, 57, 12890, 2, 51, 48,
  12891, 2, 51, 49, 12892, 2, 51, 50, 12893, 2, 51, 51, 12894, 2, 51, 52, 12895, 2, 51, 53, 12910,
  2, 4352, 4449, 12911, 2, 4354, 4449, 12912, 2, 4355, 4449, 12913, 2, 4357, 4449, 12914, 2, 4358,
  4449, 12915, 2, 4359, 4449, 12916, 2, 4361, 4449, 12917, 2, 4363, 4449, 12918, 2, 4364, 4449,
  12919, 2, 4366, 4449, 12920, 2, 4367, 4449, 12921, 2, 4368, 4449, 12922, 2, 4369, 4449, 12923, 2,
  4370, 4449, 12924, 5, 4366, 4449, 4535, 4352, 4457, 12925, 4, 4364, 4462, 4363, 4468, 12926, 2,
  4363, 4462, 12977, 2, 51, 54, 12978, 2, 51, 55, 12979, 2, 51, 56, 12980, 2, 51, 57, 12981, 2, 52,
  48, 12982, 2, 52, 49, 12983, 2, 52, 50, 12984, 2, 52, 51, 12985, 2, 52, 52, 12986, 2, 52, 53,
  12987, 2, 52, 54, 12988, 2, 52, 55, 12989, 2, 52, 56, 12990, 2, 52, 57, 12991, 2, 53, 48, 12992,
  2, 49, 26376, 12993, 2, 50, 26376, 12994, 2, 51, 26376, 12995, 2, 52, 26376, 12996, 2, 53, 26376,
  12997, 2, 54, 26376, 12998, 2, 55, 26376, 12999, 2, 56, 26376, 13000, 2, 57, 26376, 13001, 3, 49,
  48, 26376, 13002, 3, 49, 49, 26376, 13003, 3, 49, 50, 26376, 13004, 2, 72, 103, 13005, 3, 101,
  114, 103, 13006, 2, 101, 86, 13007, 3, 76, 84, 68, 13055, 2, 20196, 21644, 13056, 5, 12450, 12495,
  12442, 12540, 12488, 13057, 4, 12450, 12523, 12501, 12449, 13058, 5, 12450, 12531, 12504, 12442,
  12450, 13059, 3, 12450, 12540, 12523, 13060, 5, 12452, 12491, 12531, 12463, 12441, 13061, 3,
  12452, 12531, 12481, 13062, 3, 12454, 12457, 12531, 13063, 6, 12456, 12473, 12463, 12540, 12488,
  12441, 13064, 4, 12456, 12540, 12459, 12540, 13065, 3, 12458, 12531, 12473, 13066, 3, 12458,
  12540, 12512, 13067, 3, 12459, 12452, 12522, 13068, 4, 12459, 12521, 12483, 12488, 13069, 4,
  12459, 12525, 12522, 12540, 13070, 4, 12459, 12441, 12525, 12531, 13071, 4, 12459, 12441, 12531,
  12510, 13072, 4, 12461, 12441, 12459, 12441, 13073, 4, 12461, 12441, 12491, 12540, 13074, 4,
  12461, 12517, 12522, 12540, 13075, 6, 12461, 12441, 12523, 12479, 12441, 12540, 13076, 2, 12461,
  12525, 13077, 6, 12461, 12525, 12463, 12441, 12521, 12512, 13078, 6, 12461, 12525, 12513, 12540,
  12488, 12523, 13079, 5, 12461, 12525, 12527, 12483, 12488, 13080, 4, 12463, 12441, 12521, 12512,
  13081, 6, 12463, 12441, 12521, 12512, 12488, 12531, 13082, 6, 12463, 12523, 12475, 12441, 12452,
  12525]

/-- Signs from 13083 on that stand for several others: the sign, how many, and these. -/
def expansionsOfSquareSigns : List Nat := [
  13083, 4, 12463, 12525, 12540, 12493, 13084, 3, 12465, 12540, 12473, 13085, 3, 12467, 12523,
  12490, 13086, 4, 12467, 12540, 12507, 12442, 13087, 4, 12469, 12452, 12463, 12523, 13088, 5,
  12469, 12531, 12481, 12540, 12512, 13089, 5, 12471, 12522, 12531, 12463, 12441, 13090, 3, 12475,
  12531, 12481, 13091, 3, 12475, 12531, 12488, 13092, 4, 12479, 12441, 12540, 12473, 13093, 3,
  12486, 12441, 12471, 13094, 3, 12488, 12441, 12523, 13095, 2, 12488, 12531, 13096, 2, 12490,
  12494, 13097, 3, 12494, 12483, 12488, 13098, 3, 12495, 12452, 12484, 13099, 6, 12495, 12442,
  12540, 12475, 12531, 12488, 13100, 4, 12495, 12442, 12540, 12484, 13101, 5, 12495, 12441, 12540,
  12524, 12523, 13102, 6, 12498, 12442, 12450, 12473, 12488, 12523, 13103, 4, 12498, 12442, 12463,
  12523, 13104, 3, 12498, 12442, 12467, 13105, 3, 12498, 12441, 12523, 13106, 6, 12501, 12449,
  12521, 12483, 12488, 12441, 13107, 4, 12501, 12451, 12540, 12488, 13108, 6, 12501, 12441, 12483,
  12471, 12455, 12523, 13109, 3, 12501, 12521, 12531, 13110, 5, 12504, 12463, 12479, 12540, 12523,
  13111, 3, 12504, 12442, 12477, 13112, 4, 12504, 12442, 12491, 12498, 13113, 3, 12504, 12523,
  12484, 13114, 4, 12504, 12442, 12531, 12473, 13115, 5, 12504, 12442, 12540, 12471, 12441, 13116,
  4, 12504, 12441, 12540, 12479, 13117, 5, 12507, 12442, 12452, 12531, 12488, 13118, 4, 12507,
  12441, 12523, 12488, 13119, 2, 12507, 12531, 13120, 5, 12507, 12442, 12531, 12488, 12441, 13121,
  3, 12507, 12540, 12523, 13122, 3, 12507, 12540, 12531, 13123, 4, 12510, 12452, 12463, 12525,
  13124, 3, 12510, 12452, 12523, 13125, 3, 12510, 12483, 12495, 13126, 3, 12510, 12523, 12463,
  13127, 5, 12510, 12531, 12471, 12519, 12531, 13128, 4, 12511, 12463, 12525, 12531, 13129, 2,
  12511, 12522, 13130, 6, 12511, 12522, 12495, 12441, 12540, 12523, 13131, 3, 12513, 12459, 12441,
  13132, 5, 12513, 12459, 12441, 12488, 12531, 13133, 4, 12513, 12540, 12488, 12523, 13134, 4,
  12516, 12540, 12488, 12441, 13135, 3, 12516, 12540, 12523, 13136, 3, 12518, 12450, 12531, 13137,
  4, 12522, 12483, 12488, 12523, 13138, 2, 12522, 12521, 13139, 4, 12523, 12498, 12442, 12540,
  13140, 5, 12523, 12540, 12501, 12441, 12523, 13141, 2, 12524, 12512, 13142, 6, 12524, 12531,
  12488, 12465, 12441, 12531, 13143, 3, 12527, 12483, 12488, 13144, 2, 48, 28857, 13145, 2, 49,
  28857, 13146, 2, 50, 28857, 13147, 2, 51, 28857, 13148, 2, 52, 28857, 13149, 2, 53, 28857, 13150,
  2, 54, 28857, 13151, 2, 55, 28857, 13152, 2, 56, 28857, 13153, 2, 57, 28857, 13154, 3, 49, 48,
  28857, 13155, 3, 49, 49, 28857, 13156, 3, 49, 50, 28857, 13157, 3, 49, 51, 28857, 13158, 3, 49,
  52, 28857, 13159, 3, 49, 53, 28857, 13160, 3, 49, 54, 28857, 13161, 3, 49, 55, 28857, 13162, 3,
  49, 56, 28857, 13163, 3, 49, 57, 28857, 13164, 3, 50, 48, 28857, 13165, 3, 50, 49, 28857, 13166,
  3, 50, 50, 28857, 13167, 3, 50, 51, 28857, 13168, 3, 50, 52, 28857, 13169, 3, 104, 80, 97, 13170,
  2, 100, 97, 13171, 2, 65, 85, 13172, 3, 98, 97, 114, 13173, 2, 111, 86, 13174, 2, 112, 99, 13175,
  2, 100, 109, 13176, 3, 100, 109, 50, 13177, 3, 100, 109, 51, 13178, 2, 73, 85, 13179, 2, 24179,
  25104, 13180, 2, 26157, 21644, 13181, 2, 22823, 27491, 13182, 2, 26126, 27835, 13183, 4, 26666,
  24335, 20250, 31038, 13184, 2, 112, 65, 13185, 2, 110, 65, 13186, 2, 956, 65, 13187, 2, 109, 65,
  13188, 2, 107, 65, 13189, 2, 75, 66, 13190, 2, 77, 66, 13191, 2, 71, 66, 13192, 3, 99, 97, 108,
  13193, 4, 107, 99, 97, 108, 13194, 2, 112, 70, 13195, 2, 110, 70, 13196, 2, 956, 70, 13197, 2,
  956, 103, 13198, 2, 109, 103, 13199, 2, 107, 103, 13200, 2, 72, 122, 13201, 3, 107, 72, 122,
  13202, 3, 77, 72, 122, 13203, 3, 71, 72, 122, 13204, 3, 84, 72, 122, 13205, 2, 956, 108, 13206, 2,
  109, 108, 13207, 2, 100, 108, 13208, 2, 107, 108, 13209, 2, 102, 109, 13210, 2, 110, 109, 13211,
  2, 956, 109, 13212, 2, 109, 109, 13213, 2, 99, 109, 13214, 2, 107, 109, 13215, 3, 109, 109, 50,
  13216, 3, 99, 109, 50, 13217, 2, 109, 50, 13218, 3, 107, 109, 50, 13219, 3, 109, 109, 51, 13220,
  3, 99, 109, 51, 13221, 2, 109, 51, 13222, 3, 107, 109, 51, 13223, 3, 109, 8725, 115, 13224, 4,
  109, 8725, 115, 50, 13225, 2, 80, 97, 13226, 3, 107, 80, 97, 13227, 3, 77, 80, 97, 13228, 3, 71,
  80, 97, 13229, 3, 114, 97, 100, 13230, 5, 114, 97, 100, 8725, 115, 13231, 6, 114, 97, 100, 8725,
  115, 50, 13232, 2, 112, 115, 13233, 2, 110, 115, 13234, 2, 956, 115, 13235, 2, 109, 115, 13236, 2,
  112, 86, 13237, 2, 110, 86, 13238, 2, 956, 86, 13239, 2, 109, 86, 13240, 2, 107, 86, 13241, 2, 77,
  86, 13242, 2, 112, 87, 13243, 2, 110, 87, 13244, 2, 956, 87, 13245, 2, 109, 87, 13246, 2, 107, 87,
  13247, 2, 77, 87, 13248, 2, 107, 937, 13249, 2, 77, 937, 13250, 4, 97, 46, 109, 46, 13251, 2, 66,
  113, 13252, 2, 99, 99, 13253, 2, 99, 100, 13254, 4, 67, 8725, 107, 103, 13255, 3, 67, 111, 46,
  13256, 2, 100, 66, 13257, 2, 71, 121, 13258, 2, 104, 97, 13259, 2, 72, 80, 13260, 2, 105, 110,
  13261, 2, 75, 75, 13262, 2, 75, 77, 13263, 2, 107, 116, 13264, 2, 108, 109, 13265, 2, 108, 110,
  13266, 3, 108, 111, 103, 13267, 2, 108, 120, 13268, 2, 109, 98, 13269, 3, 109, 105, 108, 13270, 3,
  109, 111, 108, 13271, 2, 80, 72, 13272, 4, 112, 46, 109, 46, 13273, 3, 80, 80, 77, 13274, 2, 80,
  82, 13275, 2, 115, 114, 13276, 2, 83, 118, 13277, 2, 87, 98, 13278, 3, 86, 8725, 109, 13279, 3,
  65, 8725, 109, 13280, 2, 49, 26085, 13281, 2, 50, 26085, 13282, 2, 51, 26085, 13283, 2, 52, 26085,
  13284, 2, 53, 26085, 13285, 2, 54, 26085, 13286, 2, 55, 26085, 13287, 2, 56, 26085, 13288, 2, 57,
  26085, 13289, 3, 49, 48, 26085, 13290, 3, 49, 49, 26085, 13291, 3, 49, 50, 26085, 13292, 3, 49,
  51, 26085, 13293, 3, 49, 52, 26085, 13294, 3, 49, 53, 26085, 13295, 3, 49, 54, 26085, 13296, 3,
  49, 55, 26085, 13297, 3, 49, 56, 26085, 13298, 3, 49, 57, 26085, 13299, 3, 50, 48, 26085, 13300,
  3, 50, 49, 26085, 13301, 3, 50, 50, 26085, 13302, 3, 50, 51, 26085, 13303, 3, 50, 52, 26085,
  13304, 3, 50, 53, 26085, 13305, 3, 50, 54, 26085, 13306, 3, 50, 55, 26085, 13307, 3, 50, 56,
  26085, 13308, 3, 50, 57, 26085, 13309, 3, 51, 48, 26085, 13310, 3, 51, 49, 26085, 13311, 3, 103,
  97, 108, 64606, 3, 32, 1612, 1617, 64607, 3, 32, 1613, 1617, 64608, 3, 32, 1614, 1617, 64609, 3,
  32, 1615, 1617, 64610, 3, 32, 1616, 1617, 64611, 3, 32, 1617, 1648, 65018, 18, 1589, 1604, 1609,
  32, 1575, 1604, 1604, 1607, 32, 1593, 1604, 1610, 1607, 32, 1608, 1587, 1604, 1605, 65019, 8,
  1580, 1604, 32, 1580, 1604, 1575, 1604, 1607, 65020, 4, 1585, 1740, 1575, 1604, 65049, 3, 46, 46,
  46, 65072, 2, 46, 46, 65097, 2, 32, 773, 65098, 2, 32, 773, 65099, 2, 32, 773, 65100, 2, 32, 773,
  65136, 2, 32, 1611, 65138, 2, 32, 1612, 65140, 2, 32, 1613, 65142, 2, 32, 1614, 65144, 2, 32,
  1615, 65146, 2, 32, 1616, 65148, 2, 32, 1617, 65150, 2, 32, 1618, 65507, 2, 32, 772, 119134, 2,
  119127, 119141, 119135, 2, 119128, 119141, 119136, 3, 119128, 119141, 119150, 119137, 3, 119128,
  119141, 119151, 119138, 3, 119128, 119141, 119152, 119139, 3, 119128, 119141, 119153, 119140, 3,
  119128, 119141, 119154, 119227, 2, 119225, 119141, 119228, 2, 119226, 119141, 119229, 3, 119225,
  119141, 119150, 119230, 3, 119226, 119141, 119150, 119231, 3, 119225, 119141, 119151, 119232, 3,
  119226, 119141, 119151, 127232, 2, 48, 46, 127233, 2, 48, 44, 127234, 2, 49, 44, 127235, 2, 50,
  44, 127236, 2, 51, 44, 127237, 2, 52, 44, 127238, 2, 53, 44, 127239, 2, 54, 44, 127240, 2, 55, 44,
  127241, 2, 56, 44, 127242, 2, 57, 44, 127248, 3, 40, 65, 41, 127249, 3, 40, 66, 41, 127250, 3, 40,
  67, 41, 127251, 3, 40, 68, 41, 127252, 3, 40, 69, 41, 127253, 3, 40, 70, 41, 127254, 3, 40, 71,
  41, 127255, 3, 40, 72, 41, 127256, 3, 40, 73, 41, 127257, 3, 40, 74, 41, 127258, 3, 40, 75, 41,
  127259, 3, 40, 76, 41, 127260, 3, 40, 77, 41, 127261, 3, 40, 78, 41, 127262, 3, 40, 79, 41,
  127263, 3, 40, 80, 41, 127264, 3, 40, 81, 41, 127265, 3, 40, 82, 41, 127266, 3, 40, 83, 41,
  127267, 3, 40, 84, 41, 127268, 3, 40, 85, 41, 127269, 3, 40, 86, 41, 127270, 3, 40, 87, 41,
  127271, 3, 40, 88, 41, 127272, 3, 40, 89, 41, 127273, 3, 40, 90, 41, 127274, 3, 12308, 83, 12309,
  127277, 2, 67, 68, 127278, 2, 87, 90, 127306, 2, 72, 86, 127307, 2, 77, 86, 127308, 2, 83, 68,
  127309, 2, 83, 83]

/-- Signs from 127310 on that stand for several others: the sign, how many, and these. -/
def expansionsOfFartherSigns : List Nat := [
  127310, 3, 80, 80, 86, 127311, 2, 87, 67, 127338, 2, 77, 67, 127339, 2, 77, 68, 127340, 2, 77, 82,
  127376, 2, 68, 74, 127488, 2, 12411, 12363, 127489, 2, 12467, 12467, 127507, 2, 12486, 12441,
  127552, 3, 12308, 26412, 12309, 127553, 3, 12308, 19977, 12309, 127554, 3, 12308, 20108, 12309,
  127555, 3, 12308, 23433, 12309, 127556, 3, 12308, 28857, 12309, 127557, 3, 12308, 25171, 12309,
  127558, 3, 12308, 30423, 12309, 127559, 3, 12308, 21213, 12309, 127560, 3, 12308, 25943, 12309]

/-- Signs that stand for several others. -/
def expansionsOfSigns : List Nat :=
  expansionsOfPlainSigns ++ expansionsOfSquareSigns ++ expansionsOfFartherSigns

/-- Signs that are made of two: the sign, and its halves. -/
def compositionsOfSigns : List Nat := [
  901, 168, 769, 8129, 168, 834, 8141, 8127, 768, 8142, 8127, 769, 8143, 8127, 834, 8157, 8190, 768,
  8158, 8190, 769, 8159, 8190, 834, 8173, 168, 768, 8602, 8592, 824, 8603, 8594, 824, 8622, 8596,
  824, 8653, 8656, 824, 8654, 8660, 824, 8655, 8658, 824, 8708, 8707, 824, 8713, 8712, 824, 8716,
  8715, 824, 8740, 8739, 824, 8742, 8741, 824, 8769, 8764, 824, 8772, 8771, 824, 8775, 8773, 824,
  8777, 8776, 824, 8800, 61, 824, 8802, 8801, 824, 8813, 8781, 824, 8814, 60, 824, 8815, 62, 824,
  8816, 8804, 824, 8817, 8805, 824, 8820, 8818, 824, 8821, 8819, 824, 8824, 8822, 824, 8825, 8823,
  824, 8832, 8826, 824, 8833, 8827, 824, 8836, 8834, 824, 8837, 8835, 824, 8840, 8838, 824, 8841,
  8839, 824, 8876, 8866, 824, 8877, 8872, 824, 8878, 8873, 824, 8879, 8875, 824, 8928, 8828, 824,
  8929, 8829, 824, 8930, 8849, 824, 8931, 8850, 824, 8938, 8882, 824, 8939, 8883, 824, 8940, 8884,
  824, 8941, 8885, 824]

end CommandConsole.Text

/-! ## Composed forms -/

namespace CommandConsole.Text

/-! ## Decomposition -/

/-- What the row of `n` makes of `n`, if there is one. -/
def imageInRows? (n : Nat) : List Nat → Option Nat
  | first :: last :: image :: rest =>
    if first ≤ n ∧ n ≤ last then some (image + (n - first)) else imageInRows? n rest
  | _ => none

/-- What `n` stands for, if it stands for a single other character. -/
def image? (n : Nat) : List Nat → Option Nat
  | c :: image :: rest => if c = n then some image else image? n rest
  | _ => none

/-- What `n` stands for, if it stands for several characters. At most `fuel` entries are read. -/
def expansion? (n : Nat) : (fuel : Nat) → List Nat → Option (List Nat)
  | 0, _ => none
  | fuel + 1, c :: count :: rest =>
    if c = n then some (rest.take count) else expansion? n fuel (rest.drop count)
  | _, _ => none

/-- The two characters that `n` is made of. -/
def halves? (n : Nat) : List Nat → Option (Nat × Nat)
  | c :: first :: second :: rest => if c = n then some (first, second) else halves? n rest
  | _ => none

/-- The first syllable of Hangul. -/
def firstSyllable : Nat := 0xac00

/-- How many syllables there are, and how many start with the same consonant and vowel. -/
def syllables : Nat × Nat := (11172, 28)

/-- The parts of a syllable, if `n` is one. -/
def syllableParts? (n : Nat) : Option (List Nat) :=
  let (count, finals) := syllables
  if firstSyllable ≤ n ∧ n < firstSyllable + count then
    let k := n - firstSyllable
    let (initial, vowel, final) := (k / (21 * finals), k / finals % 21, k % finals)
    some ([0x1100 + initial, 0x1161 + vowel] ++ if final = 0 then [] else [0x11a7 + final])
  else none

/-- The plain characters that `n` stands for, if it is a variant of them. -/
def alternative? (n : Nat) : Option (List Nat) :=
  let single := (imageInRows? n imageRows).or <| (image? n images).or <|
    (imageInRows? n imageRowsOfSigns).or (image? n imagesOfSigns)
  (single.map ([·])).or <| (expansion? n expansions.length expansions).or <|
    (expansion? n expansionsOfSigns.length expansionsOfSigns).or (syllableParts? n)

/-- The halves of a character. -/
def parts? (n : Nat) : Option (Nat × Nat) :=
  (halves? n compositions).or (halves? n compositionsOfSigns)

/-- The plain characters that `n` consists of. Characters made of two may be made of such
characters again, up to `depth` times. -/
def decomposed : (depth n : Nat) → List Nat
  | 0, n => [n]
  | depth + 1, n =>
    if n < 128 then [n]
    else match parts? n with
      | some (first, second) => decomposed depth first ++ decomposed depth second
      | none => (alternative? n).getD [n]

/-! ## Spellings without loss -/

/-- The variant that tells of characters that mean the same as what they stand for. -/
def sameVariant : String := "canonical"

/-- Characters that stand for one that stands for others itself. -/
def steps : List (Nat × Nat) := [(0x1ffd, 0xb4), (0x2000, 0x2002), (0x2001, 0x2003)]

/-- The plain characters that mean the same as `n`, if there are others. -/
def equivalent? (n : Nat) : Option (List Nat) :=
  match steps.lookup n, syllableParts? n with
  | some m, _ => some [m]
  | none, some ns => some ns
  | none, none => if Property.variant n == sameVariant then alternative? n else none

/-- The plain characters that mean the same as `n`, as `decomposed` has them. -/
def separated : (depth n : Nat) → List Nat
  | 0, n => [n]
  | depth + 1, n =>
    if n < 128 then [n]
    else match parts? n with
      | some (first, second) => separated depth first ++ separated depth second
      | none => (equivalent? n).getD [n]

/-! ## Marks -/

/-- The class of a mark in the rows, zero of other characters. -/
def classInRows (n : Nat) : List Nat → Nat
  | first :: last :: c :: rest => if first ≤ n ∧ n ≤ last then c else classInRows n rest
  | _ => 0

/-- The class of a mark; characters that are no marks have class zero. -/
def markClass (n : Nat) : Nat :=
  if n < 0x300 then 0 else classInRows n markRows

/-- Puts a mark before those of higher classes, with which `marks`, nearest first, end. -/
def insertMark (n : Nat) : (marks : List Nat) → List Nat
  | [] => [n]
  | m :: ms =>
    if markClass n != 0 && markClass n < markClass m then m :: insertMark n ms else n :: m :: ms

/-- Characters with their marks in order. -/
def ordered (ns : List Nat) : List Nat :=
  (ns.foldl (fun before n => insertMark n before) []).reverse

/-! ## Composition -/

/-- The character that two are the halves of. -/
def pair? (first second : Nat) : List Nat → Option Nat
  | c :: a :: b :: rest => if a = first ∧ b = second then some c else pair? first second rest
  | _ => none

/-- The character that two characters make. -/
def composed? (first second : Nat) : Option Nat :=
  let (count, finals) := syllables
  if 0x1100 ≤ first ∧ first < 0x1113 ∧ 0x1161 ≤ second ∧ second < 0x1176 then
    some (firstSyllable + ((first - 0x1100) * 21 + (second - 0x1161)) * finals)
  else if firstSyllable ≤ first ∧ first < firstSyllable + count ∧
      (first - firstSyllable) % finals = 0 ∧ 0x11a7 < second ∧ second < 0x11a7 + finals then
    some (first + (second - 0x11a7))
  else (pair? first second compositions).or (pair? first second compositionsOfSigns)

/-- The state of composing: the characters before the last starter, nearest first, this, and the
marks after it that did not go into it, nearest first. -/
structure Composing where
  done : List Nat
  starter : Option Nat
  marks : List Nat

/-- All characters so far, nearest first. -/
def Composing.all (s : Composing) : List Nat :=
  s.marks ++ s.starter.toList ++ s.done

/-- Composes with a further character. It goes into the starter unless a mark of its own class or a
higher one stands between them. -/
def Composing.next (s : Composing) (n : Nat) : Composing :=
  let free := match s.marks with
    | [] => true
    | m :: _ => markClass m < markClass n
  match s.starter.bind fun first => if free then composed? first n else none with
  | some c => { s with starter := some c }
  | none =>
    if markClass n = 0 then ⟨s.all, some n, []⟩ else { s with marks := n :: s.marks }

/-- What can be written as one character is. -/
def composedAll (ns : List Nat) : List Nat :=
  (ns.foldl Composing.next ⟨[], none, []⟩).all.reverse

/-- The form of a text: whether variants are replaced, and whether characters are composed. -/
def normalForm (replaces composes : Bool) (cs : List Char) : List Char :=
  if cs.all (·.toNat < 128) then cs
  else
    let split := if replaces then decomposed 4 else separated 4
    let plain := ordered (cs.flatMap fun c => split c.toNat)
    (if composes then composedAll plain else plain).map .ofNat

/-- The composed form of a text. -/
def composedForm : List Char → List Char := normalForm true true

/-- What a character stands for and in what way, a single step of it. -/
def composition (n : Nat) : String × List Nat :=
  let kind := Property.variant n
  if kind == "" then ("", [])
  else if kind == sameVariant then
    ("", match parts? n with
      | some (first, second) => [first, second]
      | none => ((equivalent? n).map composedAll).getD [])
  else (kind, ((alternative? n).map composedAll).getD [])

end CommandConsole.Text
