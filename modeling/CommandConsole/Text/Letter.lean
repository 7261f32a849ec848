import CommandConsole.Text.Case
import CommandConsole.Text.CodeSet
import CommandConsole.Text.Word

/-!
# Kinds of letters

Letters are the word characters that are no numerals. A capital is told by its having a lower-case
form, and a small letter by its having an upper-case form, apart from the characters in a table for
each. A word starts with a capital, for which a few letters have a form of their own.
-/

namespace CommandConsole.Text

/-- The numerals that are no letters. -/
def numerals : CodeSet := ⟨[
  48, 58, 178, 180, 185, 186, 188, 191, 1632, 1642, 1776, 1786, 1984, 1994, 2406, 2416, 2534, 2544,
  2548, 2554, 2662, 2672, 2790, 2800, 2918, 2928, 2930, 2936, 3046, 3059, 3174, 3184, 3192, 3199,
  3302, 3312, 3416, 3423, 3430, 3449, 3558, 3568, 3664, 3674, 3792, 3802, 3872, 3892, 4160, 4170,
  4240, 4250, 4969, 4989, 5870, 5873, 6112, 6122, 6128, 6138, 6160, 6170, 6470, 6480, 6608, 6619,
  6784, 6794, 6800, 6810, 6992, 7002, 7088, 7098, 7232, 7242, 7248, 7258, 8304, 8305, 8308, 8314,
  8320, 8330, 8528, 8579, 8581, 8586, 9312, 9372, 9450, 9472, 10102, 10132, 11517, 11518, 12295,
  12296, 12321, 12330, 12344, 12347, 12690, 12694, 12832, 12842, 12872, 12880, 12881, 12896, 12928,
  12938, 12977, 12992, 42528, 42538, 42726, 42736, 43056, 43062, 43216, 43226, 43264, 43274, 43472,
  43482, 43504, 43514, 43600, 43610, 44016, 44026, 65296, 65306, 65799, 65844, 65856, 65913, 65930,
  65932, 66273, 66300, 66336, 66340, 66369, 66370, 66378, 66379, 66513, 66518, 66720, 66730, 67672,
  67680, 67705, 67712, 67751, 67760, 67835, 67840, 67862, 67868, 68028, 68030, 68032, 68048, 68050,
  68096, 68160, 68169, 68221, 68223, 68253, 68256, 68331, 68336, 68440, 68448, 68472, 68480, 68521,
  68528, 68858, 68864, 68912, 68922, 69216, 69247, 69405, 69415, 69457, 69461, 69573, 69580, 69714,
  69744, 69872, 69882, 69942, 69952, 70096, 70106, 70113, 70133, 70384, 70394, 70736, 70746, 70864,
  70874, 71248, 71258, 71360, 71370, 71472, 71484, 71904, 71923, 72016, 72026, 72784, 72813, 73040,
  73050, 73120, 73130, 73664, 73685, 74752, 74863, 92768, 92778, 92864, 92874, 93008, 93018, 93019,
  93026, 93824, 93847, 119520, 119540, 119648, 119673, 120782, 120832, 123200, 123210, 123632,
  123642, 125127, 125136, 125264, 125274, 126065, 126124, 126125, 126128, 126129, 126133, 126209,
  126254, 126255, 126270, 127232, 127245, 130032, 130042]⟩

/-- The letters that stand for numbers. -/
def numberLetters : CodeSet := ⟨[
  13317, 13318, 13443, 13444, 14378, 14379, 15181, 15182, 19968, 19969, 19971, 19972, 19975, 19976,
  19977, 19978, 20061, 20062, 20108, 20109, 20116, 20117, 20118, 20119, 20159, 20161, 20191, 20192,
  20200, 20201, 20237, 20238, 20336, 20337, 20740, 20741, 20806, 20807, 20841, 20842, 20843, 20844,
  20845, 20846, 21313, 21314, 21315, 21318, 21324, 21325, 21441, 21445, 22235, 22236, 22769, 22770,
  22777, 22778, 24186, 24187, 24318, 24320, 24332, 24335, 24336, 24337, 25342, 25343, 25420, 25421,
  26578, 26579, 28422, 28423, 29590, 29591, 30334, 30335, 32902, 32903, 33836, 33837, 36014, 36015,
  36019, 36020, 36144, 36145, 38433, 38434, 38470, 38471, 38476, 38477, 38520, 38521, 38646, 38647,
  63851, 63852, 63859, 63860, 63864, 63865, 63922, 63923, 63953, 63954, 63955, 63956, 63997, 63998,
  131073, 131074, 131172, 131173, 131298, 131299, 131361, 131362, 133418, 133419, 133507, 133508,
  133516, 133517, 133532, 133533, 133866, 133867, 133885, 133886, 133913, 133914, 140176, 140177,
  141720, 141721, 146203, 146204, 156269, 156270, 194704, 194705]⟩

/-- The digits that are not used in a decimal notation. -/
def otherDigits : CodeSet := ⟨[
  178, 180, 185, 186, 4969, 4978, 6618, 6619, 8304, 8305, 8308, 8314, 8320, 8330, 9312, 9321, 9332,
  9341, 9352, 9361, 9450, 9451, 9461, 9470, 9471, 9472, 10102, 10111, 10112, 10121, 10122, 10131,
  68160, 68164, 69216, 69225, 69714, 69723, 127232, 127243]⟩

/-- The characters for which having a lower-case form and being a capital differ. -/
def oddCapitals : CodeSet := ⟨[
  453, 454, 456, 457, 459, 460, 498, 499, 978, 981, 8072, 8080, 8088, 8096, 8104, 8112, 8124, 8125,
  8140, 8141, 8188, 8189, 8450, 8451, 8455, 8456, 8459, 8462, 8464, 8467, 8469, 8470, 8473, 8478,
  8484, 8485, 8488, 8489, 8492, 8494, 8496, 8498, 8499, 8500, 8510, 8512, 8517, 8518, 119808,
  119834, 119860, 119886, 119912, 119938, 119964, 119965, 119966, 119968, 119970, 119971, 119973,
  119975, 119977, 119981, 119982, 119990, 120016, 120042, 120068, 120070, 120071, 120075, 120077,
  120085, 120086, 120093, 120120, 120122, 120123, 120127, 120128, 120133, 120134, 120135, 120138,
  120145, 120172, 120198, 120224, 120250, 120276, 120302, 120328, 120354, 120380, 120406, 120432,
  120458, 120488, 120513, 120546, 120571, 120604, 120629, 120662, 120687, 120720, 120745, 120778,
  120779, 127280, 127306, 127312, 127338, 127344, 127370]⟩

/-- The characters for which having an upper-case form and being a small letter differ. -/
def oddSmallLetters : CodeSet := ⟨[
  170, 171, 186, 187, 312, 313, 397, 398, 411, 412, 426, 428, 442, 443, 446, 447, 453, 454, 456,
  457, 459, 460, 498, 499, 545, 546, 564, 570, 597, 598, 600, 601, 602, 603, 605, 608, 610, 611,
  612, 613, 615, 616, 621, 623, 624, 625, 627, 629, 630, 637, 638, 640, 641, 642, 644, 647, 653,
  658, 659, 660, 661, 669, 671, 697, 704, 706, 736, 741, 890, 891, 1020, 1021, 1376, 1377, 1416,
  1417, 7424, 7545, 7546, 7549, 7550, 7566, 7567, 7616, 7836, 7838, 7839, 7840, 8072, 8080, 8088,
  8096, 8104, 8112, 8124, 8125, 8140, 8141, 8188, 8189, 8305, 8306, 8319, 8320, 8336, 8349, 8458,
  8459, 8462, 8464, 8467, 8468, 8495, 8496, 8500, 8501, 8505, 8506, 8508, 8510, 8518, 8522, 11377,
  11378, 11380, 11381, 11383, 11390, 11492, 11493, 42652, 42654, 42800, 42802, 42864, 42873, 42894,
  42895, 42901, 42902, 42927, 42928, 42963, 42964, 42965, 42966, 43000, 43003, 43824, 43859, 43860,
  43867, 43868, 43881, 67456, 67457, 67459, 67462, 67463, 67505, 67506, 67515, 119834, 119860,
  119886, 119893, 119894, 119912, 119938, 119964, 119990, 119994, 119995, 119996, 119997, 120004,
  120005, 120016, 120042, 120068, 120094, 120120, 120146, 120172, 120198, 120224, 120250, 120276,
  120302, 120328, 120354, 120380, 120406, 120432, 120458, 120486, 120514, 120539, 120540, 120546,
  120572, 120597, 120598, 120604, 120630, 120655, 120656, 120662, 120688, 120713, 120714, 120720,
  120746, 120771, 120772, 120778, 120779, 120780, 122624, 122634, 122635, 122655]⟩

/-- Letters whose form at the head of a word is one letter other than the upper-case form. -/
def titleSpans : List CaseSpan := [
  ⟨452, 458, 3, 1⟩, ⟨453, 459, 3, 0⟩, ⟨454, 460, 3, -1⟩, ⟨497, 497, 1, 1⟩, ⟨498, 498, 1, 0⟩,
  ⟨499, 499, 1, -1⟩, ⟨4304, 4346, 1, 0⟩, ⟨4349, 4351, 1, 0⟩, ⟨8064, 8071, 1, 8⟩,
  ⟨8072, 8079, 1, 0⟩, ⟨8080, 8087, 1, 8⟩, ⟨8088, 8095, 1, 0⟩, ⟨8096, 8103, 1, 8⟩,
  ⟨8104, 8111, 1, 0⟩, ⟨8115, 8115, 1, 9⟩, ⟨8124, 8124, 1, 0⟩, ⟨8131, 8131, 1, 9⟩,
  ⟨8140, 8140, 1, 0⟩, ⟨8179, 8179, 1, 9⟩, ⟨8188, 8188, 1, 0⟩]

/-- Letters whose form at the head of a word is several letters other than the upper-case form. -/
def titleExpansions : List (Nat × List Nat) := [
  (329, [700, 78]), (8114, [8122, 837]), (8116, [902, 837]), (8119, [913, 834, 837]),
  (8130, [8138, 837]), (8132, [905, 837]), (8135, [919, 834, 837]), (8178, [8186, 837]),
  (8180, [911, 837]), (8183, [937, 834, 837])]

/-- The form of a letter at the head of a word. -/
def titleLetter (c : Char) : List Char :=
  if titleSpans.any (·.holds c.toNat) then [CaseSpan.apply titleSpans c]
  else match titleExpansions.find? (·.1 == c.toNat), upperLetter c with
    | some (_, codes), _ => codes.map Char.ofNat
    | none, first :: rest => first :: rest.flatMap lowerLetter
    | none, [] => []

/-- Whether `c` is a letter. -/
def isLetter (c : Char) : Bool :=
  isWord c && c != '_' && !numerals.contains c

/-- Whether `c` stands for a number. -/
def isNumeral (c : Char) : Bool :=
  numerals.contains c || numberLetters.contains c

/-- Whether `c` is a digit of a decimal notation. -/
def isDecimalDigit (c : Char) : Bool :=
  (digitValue? c).isSome

/-- Whether `c` is a digit. -/
def isAnyDigit (c : Char) : Bool :=
  isDecimalDigit c || otherDigits.contains c

/-- Whether `c` is a capital. -/
def isCapital (c : Char) : Bool :=
  (lowerLetter c != [c]) != oddCapitals.contains c

/-- Whether `c` is a small letter. -/
def isSmall (c : Char) : Bool :=
  (upperLetter c != [c]) != oddSmallLetters.contains c

/-- Whether `c` is a letter that has two cases. -/
def isCased (c : Char) : Bool :=
  casedLetters.contains c

/-- A text with the form for the head of a word at the start of each word, and the lower-case form
elsewhere. `before` is given nearest first. -/
def titleAfter : (before : List Char) → List Char → List Char
  | _, [] => []
  | before, c :: after =>
    let form := if before.head?.any isCased then
      if c == 'Σ' then [lowerSigma before after] else lowerLetter c
    else titleLetter c
    form ++ titleAfter (c :: before) after

/-- A text as a title. -/
def titleChars (cs : List Char) : List Char := titleAfter [] cs

/-- A text with the form for the head of a word at its start, and the lower-case form elsewhere. -/
def capitalizedChars : List Char → List Char
  | [] => []
  | c :: cs => titleLetter c ++ lowerAfter [c] cs

/-- A text with each letter in its other case. `before` is given nearest first. -/
def swappedAfter : (before : List Char) → List Char → List Char
  | _, [] => []
  | before, c :: after =>
    let form :=
      if isCapital c then if c == 'Σ' then [lowerSigma before after] else lowerLetter c
      else if isSmall c then upperLetter c
      else [c]
    form ++ swappedAfter (c :: before) after

/-- A text with each letter in its other case. -/
def swappedChars (cs : List Char) : List Char := swappedAfter [] cs

/-- A text in a form in which letters that differ in case only are the same. Of the Cherokee letters
that is the upper-case form, and of all others the lower-case one. -/
def foldedChars (cs : List Char) : List Char :=
  cs.flatMap fun c => if c == 'ı' then [c] else (upperLetter c).flatMap fold
where
  /-- The form of a capital. -/
  fold (c : Char) : List Char :=
    if c == 'ẞ' then ['s', 's']
    else if 0x13a0 ≤ c.toNat && c.toNat ≤ 0x13f5 then [c]
    else lowerLetter c

/-- Whether a row of characters has words only that start with a capital and go on with small
letters. -/
def isTitle (cs : List Char) : Bool :=
  go false false cs
where
  go (found afterCased : Bool) : List Char → Bool
    | [] => found
    | c :: cs =>
      if isCapital c || (isCased c && !isSmall c) then !afterCased && go true true cs
      else if isSmall c then afterCased && go true true cs
      else go found false cs

end CommandConsole.Text
