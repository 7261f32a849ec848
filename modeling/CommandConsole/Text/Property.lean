import CommandConsole.Number.Integer
import CommandConsole.Text.Split

/-!
# Properties of characters

The Unicode standard gives every character a category, a direction, a width and a value. They are
kept as runs of characters: a run is written as the distance from the start of the one before, in
hexadecimal digits, and a letter for what its characters have in common.
-/

namespace CommandConsole.Text

open CommandConsole.Number

namespace Property

/-! ## Runs -/

/-- Where one is in rows of runs: where the last run starts and its letter, and the number that the
digits after it make. -/
structure Position where
  start : Nat
  letter : Char
  gap : Nat

/-- The letter of the run of a character in the rest of a row. A run ends where the next one
starts. -/
def letterIn (n : Nat) : Position → List Char → Position
  | p, [] => p
  | p, c :: cs =>
    match digitOf? 16 c with
    | some d => letterIn n { p with gap := 16 * p.gap + d } cs
    | none =>
      if n < p.start + p.gap then p else letterIn n ⟨p.start + p.gap, c, 0⟩ cs

/-- The letter of the run of a character. -/
def letterOf (rows : List String) (n : Nat) : Char :=
  (letterIn n ⟨0, 'g', 0⟩ (rows.flatMap (·.toList))).letter

/-- What the letter of the run of a character stands for. -/
def told (rows : List String) (names : List (Char × String)) (n : Nat) : String :=
  (names.lookup (letterOf rows n)).getD ""

/-! ## Categories -/

/-- The runs of categories. -/
def categoryRows : List String := [
  "0G20p1h3j1h3i1Y1h1l1h1X1h2Tah2l3h2P1ai1h1Y1k1W1k1L1ai1l1Y1l1G21p1h1j4m1h1k1m1N1g1l1H1m1k1m1l1V",
  "2k1L1h2k1V1N1Z1V3h1P17l1P7L18l1L8P1L1P1L1P1L1P1L1P1L1P1L1P1L1P1L1P1L1P1L1P1L1P1L1P1L1P1L1P1L1P",
  "1L1P1L1P1L1P1L1P1L1P1L1P1L1P1L1P1L1P1L1P1L1P1L1P1L2P1L1P1L1P1L1P1L1P1L1P1L1P1L1P1L2P1L1P1L1P1L",
  "1P1L1P1L1P1L1P1L1P1L1P1L1P1L1P1L1P1L1P1L1P1L1P1L1P1L1P1L1P1L1P1L1P1L1P1L1P1L1P1L1P2L1P1L1P1L3P",
  "2L1P1L1P2L1P3L2P4L1P2L1P3L3P2L1P2L1P1L1P1L1P2L1P1L2P1L1P2L1P3L1P1L1P2L2N1P1L3N4P1O1L1P1O1L1P1O",
  "1L1P1L1P1L1P1L1P1L1P1L1P1L1P1L1P1L2P1L1P1L1P1L1P1L1P1L1P1L1P1L1P1L1P1L2P1O1L1P1L1P3L1P1L1P1L1P",
  "1L1P1L1P1L1P1L1P1L1P1L1P1L1P1L1P1L1P1L1P1L1P1L1P1L1P1L1P1L1P1L1P1L1P1L1P1L1P1L1P1L1P1L1P1L1P1L",
  "1P1L1P1L1P1L7P2L1P2L2P1L1P4L1P1L1P1L1P1L1P1L45N1L1bM12k4MckeM5k7M1k1M1k11S70P1L1P1L1M1k1P1L1I2",
  "M1L3h1P1I4k2P1h1P3I1P1I1P2L1P11I1P9L23P1L2P3L3P1L1P1L1P1L1P1L1P1L1P1L1P1L1P1L1P1L1P1L1P1L1P1L5",
  "P1L1l1P1L1P2L2P33L30P1L1P1L1P1L1P1L1P1L1P1L1P1L1P1L1P1L1P1L1P1L1P1L1P1L1P1L1P1L1P1L1P1L1m1S5R2",
  "P1L1P1L1P1L1P1L1P1L1P1L1P1L1P1L1P1L1P1L1P1L1P1L1P1L1P1L1P1L1P1L1P1L1P1L1P1L1P1L1P1L1P1L1P1L1P1",
  "L1P1L1P1L1P1L1P2L1P1L1P1L1P1L1P1L1P1L1P1L2P1L1P1L1P1L1P1L1P1L1P1L1P1L1P1L1P1L1P1L1P1L1P1L1P1L1",
  "P1L1P1L1P1L1P1L1P1L1P1L1P1L1P1L1P1L1P1L1P1L1P1L1P1L1P1L1P1L1P1L1P1L1P1L1P1L1P1L1P1L1P1L1P1L1P1",
  "L1P1L1P1L1P1L1P1L1P1L1P1L1P1L1P1L1P1L1P1L1P1L1I1P26I2M1h6L29h1X1I2m2j1I1S2dX1S1h1S2h1S2h1S1I8N",
  "1bI4N4h2IbH6l3h2j1h2m2Sbh1H1h3N20M1NaS15Tah4N2S1N63h1N1S7H1m1S6M2S2m1S4N2TaN3m2N1heI1H1N1S1N1e",
  "S1bI2N59SbN1IeTaN21S9M2m1h3M1I2S1j2N16S4M1S9M1S3M1S5I2hfI1N19S3I2h1I1NbI5N18k1N6I1H2I6S8N29M1S",
  "18H1S20Q1N36S1Q1S1N1Q3S8Q4S1Q2N1S7NaS2h2Tah1M1NfS1Q2I1N8I2N2I2N16I1N7I1N1I3N4I2S1N1Q3S4I2Q2I2Q",
  "2S1N1I8Q1I4N2I1N3S2I2TaN2j2V6m1j1N1h1S1I2S2Q1I1N6I4N2I2N16I1N7I1N2I1N2I1N2I2S1I1Q3S2I4S2I2S3I3",
  "S1I7N4I1N1I7TaS2N3S1h1IaS2Q1I1N9I1N3I1N16I1N7I1N2I1N5I2S1N1Q3S5I1S2Q1I1Q2S1I2N1IfN2S2I2Tah1j1I",
  "7N1S6I1S1Q2I1N8I2N2I2N16I1N7I1N2I1N5I2S1N1Q1S1Q1S4I2Q2I2Q2S1I7S2Q1I4N2I1N3S2I2Tam1N1V6IaS1N1I1",
  "N6I3N3I1N4I3N2I1N1I1N2I3N2I3N3I3NcI4Q2S1Q2I3Q3I1Q3S1I2N1I6Q1IeTaV3m6j1m1I5S1Q3S1N8I1N3I1N17I1N",
  "10I2S1N1S3Q4I1S3I1S4I7S2I1N3I2N1I2N2S2I2TaI7h1V7m1N1S1Q2h1N8I1N3I1N17I1NaI1N5I2S1N1Q1S1Q5I1S1Q",
  "2I1Q2S2I7Q2I6N2I1N2S2I2TaI1N2IdS2Q2N9I1N3I1N29S2N1Q3S4I1Q3I1Q3S1N1m1I4N3Q1V7N3S2I2TaV9m1N6I1S1",
  "Q2I1N12I3N18I1N9I1N1I2N7I3S1I4Q3S3I1S1I1Q8I6TaI2Q2h1IcN30S1N2S7I4j1N6M1S8h1Tah2I25N2I1N1I1N5I1",
  "N18I1N1I1NaS1N2S9N1I2N5I1M1I1S6I2TaI2N4I20N1m3hfm1h1m3S2m6TaVam1S1m1S1m1S1i1Y1i1Y1Q2N8I1N24I4S",
  "eQ1S5h1S2N5SbI1S24I1m8S1m6I1m2h5m4h2I25N2bQ2S4Q1S6Q1S2Q2S2N1Tah6N6Q2S2N4S3N1Q3N2Q7N3S4NdS1Q2S2",
  "Q6S1N1Q1TaQ3S1m2P26I1P1I5P1I2L2bh1M1L3N149I1N4I2N7I1N1I1N4I2N29I1N4I2N21I1N4I2N7I1N1I1N4I2NfI1",
  "N39I1N4I2N43I2S3h9V14I3N10maI6P56I2L6I2X1N26cm1h1N11p1N1ai1Y1I3N4bh3U3N8I7N12S3Q1I9N13S2Q1h2I9",
  "N12S2IcNdI1N3I1S2IcN34S2Q1S7Q8S1Q2Sbh3M1h3j1N1S1I2TaI6VaI6h6X1h4S3H1S1TaI6N23M1N35I7N5S2N22S1N",
  "1I5N46IaN1fI1S3Q4S2Q3I4Q2S1Q6S3I4m1I3h2TaN1eI2N5IbN2cI4N1aI6TaV1I3m22N17S2Q2S1I2h2N35Q1S1Q1S7I",
  "1S1Q1S1Q2S8Q6SaI2S1TaI6TaI6h7M1h6I2SeR1S10I31S4Q1N2fS1Q1S5Q1S1Q5S1Q2N8I3Tah7maS9m9h2I1S2Q1N1eQ",
  "1S4Q2S2Q1S3N2TaN2cS1Q1S2Q3S1Q1S3Q2I8h4N24Q8S8Q2S2I3h5TaI3N3TaN1eM6h2L9I7P2bI2P3h8I8S3h1SdQ1S7N",
  "4S1N6S1N2Q1S2N1I5L2cM3fLdM1L22M25S40P1L1P1L1P1L1P1L1P1L1P1L1P1L1P1L1P1L1P1L1P1L1P1L1P1L1P1L1P1",
  "L1P1L1P1L1P1L1P1L1P1L1P1L1P1L1P1L1P1L1P1L1P1L1P1L1P1L1P1L1P1L1P1L1P1L1P1L1P1L1P1L1P1L1P1L1P1L1",
  "P1L1P1L1P1L1P1L1P1L1P1L1P1L1P1L1P1L1P1L1P1L1P1L1P1L1P1L1P1L1P1L1P1L1P1L1P1L1P1L1P1L1P1L1P1L1P1",
  "L1P1L1P1L1P1L1P1L1P1L1P1L1P1L1P1L1P1L1P1L1P1L1P1L1P1L9P1L1P1L1P1L1P1L1P1L1P1L1P1L1P1L1P1L1P1L1",
  "P1L1P1L1P1L1P1L1P1L1P1L1P1L1P1L1P1L1P1L1P1L1P1L1P1L1P1L1P1L1P1L1P1L1P1L1P1L1P1L1P1L1P1L1P1L1P1",
  "L1P1L1P1L1P1L1P1L1P1L1P1L1P1L1P1L1P1L1P1L1P1L1P1L1P1L1P1L1P1L9P8L6I2P6I2L8P8L8P8L6I2P6I2L8I1P1",
  "I1P1I1P1I1P1L8P8LeI2L8O8L8O8L8O8L5I1L2P4O1k1L1k3L3I1L2P4O1k3L4I2L2P4I1k3L8P5k3I2L3I1L2P4O1k2I1",
  "pbH5X6h2g1Z1i1g2Z1i1g1h8n1o1H5p1h9g1Z1h4W2h3l1i1Y1hbl1h1W1hap1H5I1HaV1M1I2V6l3i1Y1M1Val3i1Y1I1",
  "MdI3j21IfSdR4S1R3ScIfm2P1m4P1m2L1P3L2P3L1m1P1m2l1P5m6P1m1P1m1P1m1P4m1L1P4L1N4L1m2L2P2l5P1L4m1l",
  "1m2L1m1V10U23P1L1U4V1m2I4l5m5l2m4l1m2l1m2l1m7l1m1fl2m2l1m1l1m1fl10cm8i1Y1i1Y1m14l2m7i1Y1m51l1m",
  "1el19m28l6m45I19mbI15V3cm4eV16mb7l1m9l1m36l8m6fl1mf8i1Y1i1Y1i1Y1i1Y1i1Y1i1Y1i1Y1V1em2cl5i1Y1l1",
  "fi1Y1i1Y1i1Y1i1Y1i1Y1l10m100l83i1Y1i1Y1i1Y1i1Y1i1Y1i1Y1i1Y1i1Y1i1Y1i1Y1i1Y1l3fi1Y1i1Y1l20i1Y1l",
  "102m30l15m2l6m27I2m20I1m69P30L30P1L1P3L2P1L1P1L1P1L1P4L1P1L2P1L6M2P3L1P1L1P1L1P1L1P1L1P1L1P1L1",
  "P1L1P1L1P1L1P1L1P1L1P1L1P1L1P1L1P1L1P1L1P1L1P1L1P1L1P1L1P1L1P1L1P1L1P1L1P1L1P1L1P1L1P1L1P1L1P1",
  "L1P1L1P1L1P1L1P1L1P1L1P1L1P1L1P1L1P1L1P1L1P1L1P1L1P1L1P1L1P1L1P1L1P1L1P1L1P1L2m6P1L1P1L1S3P1L1",
  "I5h4V1h2L26I1L1I5L1I2N38I7M1h1IeS1N17I9N7I1N7I1N7I1N7I1N7I1N7I1N7I1N7I1S20h2g1Z1g1Z1h3g1Z1h1g1",
  "Z1h9X1h2X1h1g1Z1h2g1Z1i1Y1i1Y1i1Y1i1Y1h5M1haX2h4X1h1i1hdm2h3i1Y1i1Y1i1Y1i1Y1X1I22m1aI1m59Icmd6",
  "I1amcI4p1h3m1M1N1U1i1Y1i1Y1i1Y1i1Y1i1Y1m2i1Y1i1Y1i1Y1i1Y1X1i1Y2m1U9S4Q2X1M5m2U3M1N1h1m2I1N56I2",
  "S2k2M2N1X1N5ah1M3N1I5N2bI1N5eI1m2V4maN20m24IcN10m1fI1Vam1eV8m1Vfm20Vam27Vfm140N19c0m40N5215M1N",
  "477I3m37I9N28M6h2N10cM1h3N10TaN2I14P1L1P1L1P1L1P1L1P1L1P1L1P1L1P1L1P1L1P1L1P1L1P1L1P1L1P1L1P1L",
  "1P1L1P1L1P1L1P1L1P1L1P1L1P1L1P1L1N1S1R3h1Sah1M1P1L1P1L1P1L1P1L1P1L1P1L1P1L1P1L1P1L1P1L1P1L1P1L",
  "1P1L1P1L1M2S2N46UaS2h6I8k17M9k2P1L1P1L1P1L1P1L1P1L1P1L1P1L3P1L1P1L1P1L1P1L1P1L1P1L1P1L1P1L1P1L",
  "1P1L1P1L1P1L1P1L1P1L1P1L1P1L1P1L1P1L1P1L1P1L1P1L1P1L1P1L1P1L1P1L1P1L1P1L1P1L1P1L1P1L1P1L1M1L8P",
  "1L1P1L1P2L1P1L1P1L1P1L1P1L1M1k2P1L1P1L1N1P1L1P1L3P1L1P1L1P1L1P1L1P1L1P1L1P1L1P1L1P1L1P1L1P5L1P",
  "5L1P1L1P1L1P1L1P1L1P1L1P1L1P1L1P4L1P1L1I5P1L1I1L1I1L1P1L1P1L1I18M3P1L1N1M2L1N7S1N3S1N4S1N17Q2S",
  "2Q1m4S1I3V6m2j1m1I6N34h4I8Q2N32Q10S2I8h2TaI6S12N6h3N1h1N2S1TaN1cS8h2N17SbQ2Ibh1N1dI3S3Q1N2fS1Q",
  "2S4Q2S2Q3hdI1M1TaI4h2N5S1M1N9TaN5I1N29S6Q2S2Q2S2I9N3S1N8S1Q1I2TaI2h4N10M1N6m3N1Q1S1Q1N32S1N1S3",
  "N2S2N5S2N1S1N1I18N2M1h2NbQ1S2Q2h2N1M2Q1S1IaN6I2N6I2N6I9N7I1N7I1L2bk1M4L9M1k2I4L50N23Q2S1Q2S1Q2",
  "h1Q1S1I2TaI6N2ba4IcN17I4N31I4K800J1900N16eI2N6aI26L7IcL5I5N1S1Nal1NdI1N5I1N1I1N2I1N2I1N6ck11I1",
  "0N16bY1i1m10N40I2N36I7m1I20Ncj1m3S10h7i1Y1h1I6S10h1X2W2i1Y1i1Y1i1Y1i1Y1i1Y1i1Y1i1Y1i1Y1h2i1Y1h",
  "4W3h3I1h4X1i1Y1i1Y1i1Y1h3l1X1l3I1h1j1h2I4N5I1N87I2H1I1h3j1h3i1Y1h1l1h1X1h2Tah2l3h2P1ai1h1Y1k1W",
  "1k1L1ai1l1Y1l1i1Y1h1i1Y1h2NaM1N2dM2N1fI3N6I2N6I2N6I2N3I3j2l1k1m1j2I1m1l4m2IaH3m2I2NcI1N1aI1N13",
  "I1N2I1NfI2NeI22N7bI5h3I4V2dI3m9U35V4m11V2m3I1mdI3m1I2fm2dS1I82N1dI3N31IfS1V1bI4N20V4I9N14U1N8U",
  "1I5N26S5I5N1eI1h1N24I4N8h1U5I2aP28L28N4eI2TaI6P24I4L24I4N28I8N34Ibh1PbI1PfI1P7I1P2I1LbI1LfI1L7",
  "I1L2I43N137I9N16IaN8I18M6I1M2aI1M9I45N6I2N1I1N2cI1N2I3N1I2N17I1h1V8N17m2V7N1fI8V9I30N13I1N2I5V",
  "5N16V6I3h1N1aI5h1I40N38I4V2N2V10I2V2eN1S3I1S2I5S4N4I1N3I1N1dI2S3I4S1V9I7h9I7N1dV2h1N1dV3I20N8m",
  "1N1cS2I4V5h7I9N36I3h7N16I2V8N13I5V8N12I7h4IcV7I50N49I37P33IdL33I7V6N24S4I8TaI126V1fI1N2aI1S2X1",
  "I2N2I4eN1dVaN1I8N16SbV4h5I16N12S4h4I26N15V7I14N17I9Q1S1Q1N35Sfh7I4V14TaS1N2S2N1I9S3Q1N2dQ3S4Q2",
  "S2h2H1h4S1IaH1I2N19I7TaI6S3N24S5Q1S8I1Tah4N1Q2N1I8N23S1h2N1I9S2Q1N30Q3S9Q2N4h4S4h1Q1S1TaN1h1N1",
  "h3I1V14IbN12I1N19Q3S3Q2S1Q1S2h6S1I41N7I1N1I1N4I1NfI1Nah1I6N2fS1Q3S8I5TaI6S2Q2I1N8I2N2I2N16I1N7",
  "I1N2I1N5I1S2N1Q2S1Q4I2Q2I2Q3I2N1I6Q1I5N5Q2I2S7I3S5I8bN35Q3S8Q2S3Q1S1N4h5Tah2I1h1S1N3I1eN30Q3S6",
  "Q1S1Q4S2Q1S2N2h1N1I8TaIa6N2fQ3S4I2Q4S2Q1S2h17N4S2I22N30Q3S8Q2S1Q1S2h3N1IbTaI6hdI13N2bS1Q1S1Q2S",
  "6Q1S1N1h1I6TaI36N1bI2S3Q2S4Q1S5I4TaV2h3m1N7Ib9N2cQ3S9Q1S2h1I64P20L20TaV9IcN8I2N1I2N8I1N2I1N18Q",
  "6I1Q2I2S2Q1S1N1Q1N1Q1S1h3I9TaI46N8I2N27Q3S4I2S2Q4S1N1h1N1Q1I1bN1SaN28S6Q1N1S4h8S1I8N1S6Q2S3N2e",
  "SdQ1S2h3N1h5IdN49I107N9I1N25Q1S7I1S6Q1S1N1h5IaTaV13I3h2N1eI2S16I1Q1S7Q1S2Q1S2I49N7I1N2I1N26S6I",
  "3S1I1S2I1S7N1S1I8TaI6N6I1N2I1N20Q5I1S2I1Q2S1Q1S1N1I7TaI136N13S2Q2h2Ib7N1IfV15m8j4m11Idh1N39aI6",
  "6U6fI1h5IbNc4Ia4cN61h2IdN42fI1H9Ifc7N247I21b9N239I7N1fI1TaI4h2N4fI1TaI6N1eI2S5h1IaN30S7h5m4M4h",
  "1m1IaTaI1V7I1N15I5N13I2b0P20L20V17h4I65N4bI4S1N1Q37I7S4MdI40M2h1M1S1IbQ2IeN17f8I8N4d6I2aN9I22e",
  "7M4I1M7I1M2I1N123I2dN3I11N4I8N18cI904N6bI5NdI3N9I7NaI2m1S2h1H4I125cS2eI2S17I9m74I3cmf6Iam27I2m",
  "3cQ2S3m3Q6H8S8m2S7m1eS4m3dI15m42S3m1I9aV14Icm57I9V19I87P1aL1aP1aL7I1L12P1aL1aP1I1P2I2P1I2P2I2P",
  "4I1P8L4I1L1I1L7I1LbP1aL1aP2I1P4I2P8I1P7I1L1aP2I1P4I1P5I1P1I3P7I1L1aP1aL1aP1aL1aP1aL1aP1aL1aP1a",
  "L1aP1aL1cI2P19l1L19l1L6P19l1L19l1L6P19l1L19l1L6P19l1L19l1L6P19l1L19l1L6P1L1I2T32m200S37m4S32m8",
  "S1meS1m2h5IfS5I1SfI450LaN1L14Ie1S7I1S11I2S7I1S2I1S5Id5N2dI3S7M7I2TaI4N1m1I140N1eS1I11N2cS4TaI5",
  "j1I4e0N7I1N4I1N2I1NfI1Nc5I2V9S7I29P22L22S7M1I4TaI4h2I311V3bm1V3j1V4I4cV2dm1VfIc2N4I1N1bI1N2I1N",
  "1I2N1I1NaI1N4I1N1I1N1I6N1I4N1I1N1I1N1I1N3I1N2I1N1I2N1I1N1I1N1I1N1I1N1I1N2I1N1I2N4I1N7I1N4I1N4I",
  "1N1I1NaI1N11I5N3I1N5I1N11I34l2I10em2cI4m64IcmfI2mfI1mfI1m25IaVdma1I38m1dIdm2cI4m9I7m2Iem6I9amf",
  "bk5m2d8I5m10I3mdI3m74Icm59I7mcI4m1IfmcI4m38I8maI6m28I8m1eI2m2I4em154IcmeI2m5I3m5I3m7I9m1dI3mbI",
  "5m6IamaI6m8I8m7I9m93I1m37I25TaI406Na6e0I20N1039I7NdeI2N1682IeN1d31Ic1fN21eI5e2N134bIaecb6H1I1e",
  "H60I80Sf0Ife10JfffeI2JfffeI"]

/-- The categories. -/
def categoryNames : List (Char × String) := [
  ('G', "Cc"), ('H', "Cf"), ('I', "Cn"), ('J', "Co"), ('K', "Cs"), ('L', "Ll"), ('M', "Lm"),
  ('N', "Lo"), ('O', "Lt"), ('P', "Lu"), ('Q', "Mc"), ('R', "Me"), ('S', "Mn"), ('T', "Nd"),
  ('U', "Nl"), ('V', "No"), ('W', "Pc"), ('X', "Pd"), ('Y', "Pe"), ('Z', "Pf"), ('g', "Pi"),
  ('h', "Po"), ('i', "Ps"), ('j', "Sc"), ('k', "Sk"), ('l', "Sm"), ('m', "So"), ('n', "Zl"),
  ('o', "Zp"), ('p', "Zs")]

/-- The category of a character. -/
def category (n : Nat) : String := told categoryRows categoryNames n

/-! ## Directions -/

/-- The runs of directions. -/
def directionRows : List String := [
  "0J9h1I1h1i1I1JeI3h1i1U2N3U5M1K1M1K2LaK1U6P1aU6P1aU4J6I1J1aK1U1N4U4P1U2J1U2N2L2U1P1U3L1P1U5P17U",
  "1P1fU1P1c1U2P7UeP2UeP5U9P1U11T70P4U2P2j2P4U1P1j4U2P1U1P3j1P1j1P14j1P53U1P8cT7Pa6j1P26j2P31U1j2",
  "U2N1j1T2dX1T1X1T2X1T2X1T1j8X1bj4X6jbH6U2G1N2G1K1G1U2TbG30T15HaN1H2G3T1G65T7H1U1T6G2T2U1T4G2LaG",
  "14j1G2T1G1eT1bj2G59TbG1jeX2bT9X2U4X1j2T1X18T4X1T9X1T3X1T5j2Xfj1X19T3j2X1j1Gbj5G1fj1H2j6T8G2aT1",
  "8H1T20P37T1P1T1P4T8P4T1P3T7PaT2P1dT1P2j1P8j2P2j2P16j1P7j1P1j3P4j2T1P4T4j2P2j2P2T1P1j8P1j4P2j1P",
  "3T2j2PcN2P7N1P2T1j2T2P1j1P6j4P2j2P16j1P7j1P2j1P2j1P2j2T1j1P3T2j4T2j2T3j3T1j7P4j1P1j7PaT2P3T1P1",
  "jaT2P1j1P9j1P3j1P16j1P7j1P2j1P5j2T1P4T5j1T2P1j1P2T1j2P1jfP2T2j2PbN1j7P1T6j1T1P2j1P8j2P2j2P16j1",
  "P7j1P2j1P5j2T1P2T1P1T4j2P2j2P2T1j7T2P1j4P2j1P3T2j2P12jaT1P1j1P6j3P3j1P4j3P2j1P1j1P2j3P2j3P3j3P",
  "cj4P2T1P2j3P3j1P3T1j2P1j6P1jePdU6N1U1j5T1P3T1P8j1P3j1P17j1P10j2T1P1T3P4j1T3j1T4j7T2j1P3j2P1j2P",
  "2T2j2Paj7P1U7P2T1Pbj1P3j1P17j1Paj1P5j2T1P8j1P3j1P2T2j7P2j6P2j1P2T2j2Paj1P2jdT2Pbj1P3j1P29T2P4T",
  "4j1P3j1P3T1P2j4PeT2j2P1aj1T1P2j1P12j3P18j1P9j1P1j2P7j3T1j4P3T3j1T1j1P8j6Paj2P3jcP30T1P2T7j4N1P",
  "7T8Pdj25P2j1P1j1P5j1P18j1P1j1PaT1P2T9P1j2P5j1P1j1T6j2Paj2P4j20P18T2P1bT1P1T1P1T1U4Paj1P24j4TeP",
  "1T5P1T2P5Tbj1T24j1P8T1P6j1Pdj25P2dT4P1T6P1T2P2T2P19T2P4T3P10T4PdT1P2T2P6T1PfT1P28j1P1j5P1j2P17",
  "9j1P4j2P7j1P1j1P4j2P29j1P4j2P21j1P4j2P7j1P1j1P4j2Pfj1P39j1P4j2P43j2T3P1dj3P10Uaj6P56j2P6j2U1P2",
  "7fi1P1aU2j3P59j7P12T3P1j9P13T2P3j9P12T2jcPdj1P3j1T2jcP34T2P1T7P8T1P2TbP7N1P1T1j2Paj6Uaj6UbT3J1",
  "T1Paj6P59j7P5T2P22T1P1j5P46jaP1fj1T3P4T2P3j4P2T1P6T3j4U1j3U2P28j2P5jbP2cj4P1aj6Pbj3U22P17T2P2T",
  "1j2P38T1P1T7j1T1P1T1P2T8P6Taj2T1Paj6Paj6Pej2T1fj31T4P30T1P1T5P1T1P5T1Paj3P1bT9Pbj1T2P20T4P2T2P",
  "1T3P38T1P1T2P3T1P1T3P2j8P30T8P2T2j3Pfj3P3cj7P2bj2Pbj8T3P1TdP1T7P4T1P6T1P3T2P1j5Pc0T40P116j2P6j",
  "2P26j2P6j2P8j1P1j1P1j1P1j1P1fj2P35j1P7U1P1U3P3j1P7U3P4j2P6j1U3PdU3j2P3j1P7U2j1ibJ3P1X1U18i1I1Q",
  "1Y1V1S1g1K1N5UfK1U1ai1J5j1R1Z1O1W1J6L1P1j2L6M2U3P1LaM2U3j1Pdj3N21jfT21jfU2P1U4P1U2PaU1P1U3P5U6",
  "P1U1P1U1P1U1P4N1PbU2P4U5P5U4P2U10P29U3j4U82M1N1U122P45U1aP1U91j19Ubj15U28L14P4eU1c2P1U153P100U",
  "274j2U20j1U69Pe5U6P4T3P2j5U7P26j1P1j5P1j2P38j7P2jeT1P17j9P7j1P7j1P7j1P7j1P7j1P7j1P7j1P7j1T20U5",
  "ej22U1aj1U59jcUd6j1aUcj4i1U4P3U19P9T4P2U1P5U2P5U3j1P56j2T2U2P3U1P5aU1P4j5P2bj1P5ej1P30U24jcP2d",
  "U2j1P30U10P1cU3P32UfPcU4Pa7U4P63U2P1fU1P19c0U40P568dj3U37j9P13dU3P1cj14P2fT4U1TaU2P1eT2P50T2P6",
  "j8U22P66U1P42j5P2j1P1j1P5j18P10T1P3T1P4T1P19T2P1U4T1j3P8N2j6P34U4j8P44T2j8Pcj6T12PdT1P26T8P19T",
  "bP2jbP1ej3T3P30T1P2T4P2T2P10j1Pbj4P7T1P19j1P29T6P2T2P2T2j9P3T1P8T1P1j2Paj2P20T1P33T1P1T3P2T2P5",
  "T2P1T1P1j18P11T2P8T1jaP6j2P6j2P6j9P7j1P7j1P3aU2j4P75T1P2T1P4T1j2Paj6P2ba4jcP17j4P31j4P226ej2P6",
  "aj26P7jcP5j5X1T1XaM1Xdj1X5j1X1j1X2j1X2j1XaG73j10G16bU12G40j2G36j7U1j20GdU3T10Uaj6T10U20K1U1K1j",
  "1U1K1U9N1U2M2U3j1U1N2U1j4G5j1G87j2J1j1U2N3U5M1K1M1K2LaK1U6P1aU6P1aUbP59j3P6j2P6j2P6j2P3j3N2U3N",
  "2j1U7jaU5j2Pcj1P1aj1P13j1P2j1Pfj2Pej22P7bj5P1U1P1j4P2dj3P9U4dP2j1Udj3U1j2fP2dT1j82P1dj3P31jfT1",
  "L1bj4P24j9P1ej5P26T5j5P1ej1P25j4Pej2aP9ej2Paj6P24j4P24j4P28j8P34jbPcj1Pfj1P7j1P2j1Pbj1Pfj1P7j1",
  "P2j43P137j9P16jaP8j18P6j1P2aj1P9j45X6j2X1j1X2cj1X2j3X1j2X17j1X48j8X9j30X13j1X2j5X21j3U1X1aj5X1",
  "j40X38j4X14j2X2fT3j1T2j5T4X4j1X3j1X1dj2T3j4T1X9j7X9j7X40j20X25T2j4Xcj9X36j3U7X16j2X1bj5X1aj7X4",
  "jcX7j50X49j37X33jdX33j7X6G24T4j8Haj126H1fj1X2aj1T2X1j2X2j4eX28j8G16TbG9j16X12T4X4j26X1cj14X17j",
  "9P1T1P36TfP7j4U14PaT1P2T2P1j9T3P31T4P2T2P7T1jaP1j2P19j7Paj6T3P24T5P1T8j1P12j8P23T1P3j9T2P34T9P",
  "aT4P2T1P10j1P14jbP12j1P1cT3P2T1P1T2P6T1j41P7j1P1j1P4j1Pfj1Pbj6P2fT1P3T8j5Paj6T2P2j1P8j2P2j2P16",
  "j1P7j1P2j1P5j1T2P3T1P4j2P2j2P3j2P1j6P1j5P7j2T7j3T5j8bP38T8P2T3P1T1P15j1P1T1P3j1eP33T6P1T1P4T2P",
  "1T2P4j8Paja6P32T4j2P4T2P1T2P1bT2j22P33T8P2T1P1T2P4jbPaj6Udj13P2bT1P1T1P2T6P1T1P2j6Paj36P1bj2T3",
  "P2T4P1T5j4P17jb9P2fT9P1T2P1j64P53jcP8j2P1j2P8j1P2j1P1ej1P2j2T2P1T1P4T1P3j9Paj46P8j2P2aT4j2T2P4",
  "T1P4j1bP1T6P2T2P28T6P2T4P8T1j8P1T6P2T3P2eTdP1T2P9jdP49j107P9j1P26T7j1T6P8jaP1dj3P20j2T16j1P1T7",
  "P1T2P1T2j49P7j1P2j1P26T6j3T1j1T2j1T7P1T1j8Paj6P6j1P2j1P25j1T2j1P2T1P1T1P1j7Paj136P13T2P4jb7P1j",
  "fP15U8N4U11jdP39bj66P6fj1P5jbPc4ja4cP63jdP42fj1P9jfc7P247j21b9P239j7P1fj1Paj4P51j1Paj6P1ej2T5P",
  "1jaP30T7PfjaPaj1P7j1P15j5P13j2b0P5bj65P4bj4T1P38j7T4Pdj40P2U1P1T1jbP2jeP17f8j8P4d6j2aP9j22e7P4",
  "j1P7j1P2j1P123j2dP3j11P4j8P18cj904P6bj5Pdj3P9j7Paj2P1T2P1J4j125cT2ej2T17j9P74j3cPf6jaP27j2P3eT",
  "3P9J8T8P2T7P1eT4P3bU2j15U42T3U1j9aP14jcU57j9P19j87P55j1P47j1P2j2P1j2P2j2P4j1Pcj1P1j1P7j1P41j1P",
  "4j2P8j1P7j1P1cj1P4j1P5j1P1j3P7j1P154j2P33U1P39U1P39U1P39U1P39U1P8j2L32P200T37P4T32P8T1PeT1P7jf",
  "T5j1Tfj450P1fje1T7j1T11j2T7j1T2j1T5jd5P2dj3T7P7j2Paj4P2j140P1eT1j11P2cT4Paj5N1j4e0P7j1P4j1P2j1",
  "Pfj1Xc5j2X9T7j29X44T7X1j4Xaj4X2j311G44j4cG3djc2G4j1G1bj1G2j1G1j2G1j1Gaj1G4j1G1j1G1j6G1j4G1j1G1",
  "j1G1j1G3j1G2j1G1j2G1j1G1j1G1j1G1j1G1j1G2j1G1j2G4j1G7j1G4j1G4j1G1j1Gaj1G11j5G3j1G5j1G11j34U2j10",
  "eU2cj4U64jcUfj2Ufj1Ufj1U25jaLbU5P1fU1P3aU6P3dU1j38P1djdP2cj4P9j7P2jeU6j9aU3d8j5U10j3Udj3U74jcU",
  "59j7Ucj4U1jfUcj4U38j8Uaj6U28j8U1ej2U2j4eU154jcUej2U5j3U5j3U7j9U1dj3Ubj5U6jaUaj6U8j8U7j9U93j1U3",
  "7j25Laj406Pa6e0j20P1039j7Pdej2P1682jeP1d31jc1fP21ej5e2P134bjaecb6J1j1eJ60j80Tf0jfe10Pfffej2Pff",
  "fej"]

/-- The directions. -/
def directionNames : List (Char × String) := [
  ('G', "AL"), ('H', "AN"), ('I', "B"), ('J', "BN"), ('K', "CS"), ('L', "EN"), ('M', "ES"),
  ('N', "ET"), ('O', "FSI"), ('P', "L"), ('Q', "LRE"), ('R', "LRI"), ('S', "LRO"), ('T', "NSM"),
  ('U', "ON"), ('V', "PDF"), ('W', "PDI"), ('X', "R"), ('Y', "RLE"), ('Z', "RLI"), ('g', "RLO"),
  ('h', "S"), ('i', "WS"), ('j', "")]

/-- The direction in which a character is written. -/
def direction (n : Nat) : String := told directionRows directionNames n

/-! ## Widths -/

/-- The runs of widths beside Chinese characters. -/
def widthRows : List String := [
  "0N20M5fN22Q1M2Q1M2Q2N1Q1N1M1Q2M1Q5N1Q5N1Q4N6Q1N9Q1N6Q2N5Q4N4Q1N1Q3N1Q2N2Q1N1Q2N3Q4N1Q1N1Q1N2Q1",
  "NfQ1N1Q1N7Q1NaQ2N3Q1N5Q3N4Q1N6Q4N1Q1N3Q4N1Q1N4Q2N12Q2N3Q1N62Q1N1Q1N1Q1N1Q1N1Q1N1Q1N1Q1N1Q1N74Q",
  "1NfQ1N62Q1N2Q1N1Q3N1Q1N2Q1N7Q4N1Q1N1Q1N20Q70N8P2N6P4N7P1N1P1N3Q11P1Q7N7Q11N1Q7N37Q1NeQ40N1Q1Nd",
  "eP1N26P2N32P2N3P1N37P8N1bP4N6PbN10eP1N3cP2N65PeN3bP2N31P2NfP1N1cP2N1P1NbP5N1fP1N2P6NecP1N8P2N2",
  "P2N16P1N7P1N1P3N4P2N9P2N2P2N4P8N1P4N2P1N5P2N19P2N3P1N6P4N2P2N16P1N7P1N2P1N2P1N2P2N1P1N5P4N2P2N",
  "3P3N1P7N4P1N1P7N11PaN3P1N9P1N3P1N16P1N7P1N2P1N5P2NaP1N3P1N3P2N1PfN4P2NcP7N7P1N3P1N8P2N2P2N16P1",
  "N7P1N2P1N5P2N9P2N2P2N3P7N3P4N2P1N5P2N12PaN2P1N6P3N3P1N4P3N2P1N1P1N2P3N2P3N3P3NcP4N5P3N3P1N4P2N",
  "1P6N1PeN15P5NdP1N3P1N17P1N10P2N9P1N3P1N4P7N2P1N3P2N1P2N4P2NaP7N16P1N3P1N17P1NaP1N5P2N9P1N3P1N4",
  "P7N2P6N2P1N4P2NaP1N2PdNdP1N3P1N33P1N3P1N6P4N10P2N1aP1N3P1N12P3N18P1N9P1N1P2N7P3N1P4N6P1N1P1N8P",
  "6NaP2N3PcN3aP4N1dP25N2P1N1P1N5P1N18P1N1P1N17P2N5P1N1P1N6P2NaP2N4P20N48P1N24P4N27P1N24P1NfP1NdP",
  "25Nc6P1N1P5N1P2N30W60Ne9P1N4P2N7P1N1P1N4P2N29P1N4P2N21P1N4P2N7P1N1P1N4P2NfP1N39P1N4P2N43P2N20P",
  "3N1aP6N56P2N6P2N29dP3N59P7N16P9N18P9N14PcNdP1N3P1N2PcN5eP2NaP6NaP6N1aP6N59P7N2bP5N46PaN1fP1NcP",
  "4NcP4N1P3N2aP2N5PbN2cP4N1aP6NbP3N3eP2N41P1N1dP2NbP6NaP6NeP2N1fP31N4dP3N2fP1N74P8N3cP3NfP3N3cP7",
  "N2bP2NbP8N2bP5N216P2N6P2N26P2N6P2N8P1N1P1N1P1N1P1N1fP2N35P1NfP1NeP2N6P1N13P2N3P1N9P1N10Q1N2Q4N",
  "1Q2N2Q2N2Q3N1Q4N8Q1N1Q2N1Q1N5Q1N2Q1N26P1NcP2Q1NaQ1N1Q4NaP1NdP3N9H1N2Q1N14PfN21PfN3Q1N1Q1N3Q1N9",
  "Q1N2Q1NaQ2N3Q1N4Q1N27Q2N6Q4N1QcN4QaNfQ1N2P4QaN1eQ2N18Q1N1Q1N12Q1N18Q1N1Q2N3Q2N2Q1N3Q1N1Q1N3Q1N",
  "4Q1N2Q4N2Q1N1Q1N1Q6N1Q1N5Q4N4Q2NaQ1N3Q1N5Q1NdQ2N2Q4N2Q2N2Q2N12Q2N2Q2NdQ1N3Q1NbQ1N19Q1N52Q1N7W2",
  "NdW2NbeW4N3W1N2W1N33P19NbP15Q8aN1Q61N4Q24NcQ10N2Q4NaQ2N1Q7N8Q2N2Q2N4Q2N2Q2N4Q3N2Q1N2Q4N10Q4N9Q",
  "1NdW2N6Q2N2Q1N4Q2N4W2N6Q1N1Q1N21Q1N1Q1N5WcNcQ2N1Q3N1Q4N1Q2N1Q1NfW1N13W1NaQ2N1W1N8W2N11W2Q1N4W2",
  "Q8W1Q5W1QdN1Q1N4Q2W1Q7W2Q1W1Q4W1Q2W1Q2N5W1N4W2N1cW1N14Q1NeW1N1W1N4W3N1W1N1eQaN15W3N18W1NeW1N26",
  "M8N197M2N194W2N33W1N4W1Q4N1aP2N20P1N15dP5N2dP1N1P5N1P2N38P7N2PeN18P9N7P1N7P1N7P1N7P1N7P1N7P1N7",
  "P1N7P1N7eP22W1aP1W59PcWd6P1aWcP5W3eN1P1W56P2W67P5W2bP1W5eP1W54PcW2fP1W28Q8W1b70N40W568dP3W37P9",
  "N15cP14Nb8P8NcbP5N2P1N1P1N5P18N3bP3NaP6N38P8N46P8NcP6N74PbN1W1dP3N4eP1NbP4N21P1N37P9NeP2NaP2N6",
  "7P18N1cPaN6P2N6P2N6P9N7P1N7P1N3cP4N7eP2NaP6W2ba4PcN17P4N31P4N800Q1900W16eP2W6aP26N7PcN5P5N1aP1",
  "N5P1N1P1N2P1N2P1N7dP10N1bdP2N36P7N1P20N10Q10WaP6N10W23P1W13P1W4P4N5P1N87P2N1P61H5eP3H6P2H6P2H6",
  "P2H3PbH7PaN4Q1P2NcP1N1aP1N13P1N2P1NfP2NeP22N7bP5N3P4N2dP3N58P1NdP3N1P2fN2eP82N1dP3N31PfN1cP4N2",
  "4P9N1eP5N2bP5N1eP1N25P4NeP2aN9eP2NaP6N24P4N24P4N28P8N34PbNcP1NfP1N7P1N2P1NbP1NfP1N7P1N2P43N137",
  "P9N16PaN8P18N6P1N2aP1N9P45N6P2N1P1N2cP1N2P3N1P2N17P1N48P8N9P30N13P1N2P5N21P3N1bP5N1P40N38P4N14",
  "P2N32P1N2P5N8P1N3P1N1dP2N3P4NaP7N9P7N40P20N27P4NcP9N36P3N1dP2N1bP5N1aP7N4PcN7P50N49P37N33PdN33",
  "P7N2eP8NaP126N1fP1N2aP1N3P2N2P4eN28P8N2aP16N1aP26N1cP14N17P9N4eP4N24P9N44PaN1P2N19P7NaP6N35P1N",
  "12P8N27P9N60P1N14PbN12P1N2cP41N7P1N1P1N4P1NfP1NbP6N3bP5NaP6N4P1N8P2N2P2N16P1N7P1N2P1N5P1NaP2N2",
  "P2N3P2N1P6N1P5N7P2N7P3N5P8bN5cP1N5P1eN48P8NaPa6N36P2N26P22N45PbNaP6NdP13N3aP6NaP36N1bP2NfP4N17",
  "Pb9N3cP64N53PcN8P2N1P2N8P1N2P1N1eP1N2P2NcP9NaP46N8P2N2eP2NbP1bN48P8N53PdN49P107N9P1N2dP1NePaN1",
  "dP3N20P2N16P1NeP49N7P1N2P1N2cP3N1P1N2P1N9P8NaP6N6P1N2P1N25P1N2P1N6P7NaP136N19Pb7N1PfN32PdN39bP",
  "66N6fP1N5PbNc4Pa4cN63PdN42fP1N9Pfc7N247P21b9N239P7N1fP1NaP4N51P1NaP6N1eP2N6PaN46PaNaP1N7P1N15P",
  "5N13P2b0N5bP65N4bP4N39P7N11P40W5PbW2PeW17f8P8W4d6P2aW9P22e7W4P1W7P1W2P1W123P2dW3P11W4P8W18cP90",
  "4N6bP5NdP3N9P7NaP2N8P125cN2eP2N17P9N74P3cNf6PaN27P2Nc2P15N46P9aN14PcN57P9N19P87N55P1N47P1N2P2N",
  "1P2N2P2N4P1NcP1N1P1N7P1N41P1N4P2N8P1N7P1N1cP1N4P1N5P1N1P3N7P1N154P2N124P2N2bePfN5P1NfP450N1fPe",
  "1N7P1N11P2N7P1N2P1N5Pd5N2dP3NeP2NaP4N2P140N1fP11N3aP5N1P4e0N7P1N4P1N2P1NfP1Nc5P2N10P29N4cP4NaP",
  "4N2P311N44P4cN3dPc2N4P1N1bP1N2P1N1P2N1P1NaP1N4P1N1P1N1P6N1P4N1P1N1P1N1P1N3P1N2P1N1P2N1P1N1P1N1",
  "P1N1P1N1P1N2P1N1P2N4P1N7P1N4P1N4P1N1P1NaP1N11P5N3P1N5P1N11P34N2P10eN4W1N27P4N64PcNfP2NfP1NeW1P",
  "1N25PaQbN5Q1eN2Q3aN6Q1eW1Q2WaQ12N1P38N1aW3PdW2cP4W9P7W2PeW6P9aW21NcW9N1W46N1W16NcW2bN4W5NcW11N",
  "3W1N3W47N1W1N1WbbN2W3fNdW4N1W18N12W1N1aW2NdW1N56W55N30W46N6W1N3W3N2W3P5W3NbW2P3N4W9P3N74PcN59P",
  "7WcP4W1PfNcP4N38P8NaP6N28P8N1eP2N2P4eNcW2fN1WaN1Wb9N54PcNeP2W5P3W5P3W7P9W1dP3WbP5W6PaWaP6W8P8W",
  "7P9N93P1N37P25NaP406Wa6e0P20W1039P7WdeP2W1682PeW1d31Pc1fW21eP5e2W134bPaecb6N1P1eN60P80Qf0Pfe10",
  "QfffeP2QfffeP"]

/-- The widths. -/
def widthNames : List (Char × String) := [
  ('N', "N"), ('M', "Na"), ('W', "W"), ('P', "F"), ('Q', "A"), ('H', "H")]

/-- The width of a character beside Chinese characters. -/
def width (n : Nat) : String := told widthRows widthNames n

/-! ## Mirrors -/

/-- The runs of characters that are mirrored, `Y`, and of others. -/
def mirrorRows : List String := [
  "0X28Y2X12Y1X1Y1X1cY1X1Y1X1dY1X1Y1X2dY1XfY1Xe7eY4X75dY2X99cY2XaY2X36Y2XeY2Xb1Y1Xc0Y4X3Y6X3Y1X3Y",
  "2X3Y4X1Y4X1Y1X1Y1X4Y9X5Y1X1Y12X5Y4X9Y2X1Y1X1Y8X2Y1fX2Y4X5Y1X9Y2X2Y13X5Y2X9Y5X2Y2X4Y18X2Y10X8Y4",
  "X14Y2X7Y2X43dYeX4aY1X2Y4X1Y2X1Y3X5Y4X5Y3X3YeX193Y16X2Y6X1YeX8Y1X7Y6X3Y1X4Y5X1Y2X2Y5X4Y1X1Y3X2Y",
  "2XaY6X2Y2XcY13X1Y4X2Y1X1Y1X2Y1X1Y4X5Y2X6Y3X18Y2XbY2X4Y4X1Y2X2Y2X4Y2bX2Y8X1Y28X5Y1X1Y1X3Y5X5Y3X",
  "4Y1X3Y5X1Y1X100Y1X203Y4X3Y2X1Y2XeY2X2YaX2bY8X1abYaX2Y8Xce3dY6X5Y2Xa2Y2X12Y1X1Y1X1cY1X1Y1X1dY1X",
  "1Y1X1Y2X1Y2Xd777Y1X39Y1X39Y1X39Y1X39Y1X"]

/-- Whether a character is mirrored in texts that are written from the right. -/
def isMirrored (n : Nat) : Bool := letterOf mirrorRows n == 'Y'

/-! ## Variants -/

/-- The runs of ways in which characters stand for others. -/
def variantRows : List String := [
  "0Ga0R1G7J1G1V1G4J1G2V2J2G2J1V2G1M3G1H6G1H9G1H6G2H5G2H6G1H9G1H6G2H5G1H11G2H14G2H9G1J2H4G1H6J2G2",
  "H6J1G2H6G2H12G2H17J1G20H2GdH2G13J9H10G1H6G2HbJ3H2G2H24G2H2G6HeG7cV9G1fJ6G2V5G5bH2G1H2G2fH1G5J1",
  "G3H1G5J1H6G1H1G1H3G19H7G19H5G1J3H2J2G19J3G1J2G3J1G6H2G1H1G3H1G4H3GaH1G1fH1G16H2G1H1G3H1G4H3G17",
  "H2G49H2GdH4G2H2G2H6G2H6G2HcG2H2G8dJ1G9aH5G4eJ4G47H1G1H1G10H1G255H1G7H1G2H1G23H8G6bH2GfH2G1H1G5",
  "3H1G2H1G22H3G2H1Ge9H1G2H2GfH2G36H1G35H3G7bH1G77H1G6H2G1H2G7eH3G8dH1G1H3G54J1G7fJ1G28J2G2eR1G36",
  "H1G9H1G4H1G4H1G4H1GcH1G9H1G1H2J1H1J1G7H1G11H1G9H1G4H1G4H1G4H1GcH1G6cH1Gd5V1Ga09H1G1H1G1H1G1H1G",
  "1H1G3H1G28H1G1H1G2H2G1H1G1e8V3G1VbG1V12G1V13U9GdV1G22V25G40H9aJ1H1G4H5aG6H16G2H6G2H26G2H6G2H8G",
  "1H1G1H1G1H1G1H1fG2H35G1H7J1H1J2H4G1HeG2H6G1H13G2H3G1H8J1G1H2J5R1J3G6R1G5J1GcJ3G8R1G3J2G1J2G4J1",
  "G1J1G8J3GdJ1G7J1G10V2G2VcUfG1UdGbJ1G57J2L1J1G1J3G1J1LaG1L1J1G2L5G2V1J1V1G1L1G1H1G1L1G1H2L2G1L3",
  "G1L2J4L1G1J1L5G4L5G6M10J20G9M1G10H2G12H1G1eH3G34H1G4H1G2H1G17H1G1H1G5J2G1J2G10H1G2H1G2H1G1H1G1",
  "6H1G1H1GaH5G2H2G2H2G6H2G2H2G2H2G22H4G30H4G6H4G3bH2G135I14J42I35G521J1G67J3G65H1G19fU1V1Gf1V1G1",
  "2fJ1G53J1GcJd6G2aX1G35J1G1J3G11H1G1H1G1H1G1H1G1H1G1H1G1H1G1H1G1H1G1H1G1H1G1H1G2H1G1H1G1H1G6H2G",
  "1H2G1H2G1H2G1H2G16H1G6J2G1H1W1GcH1G1H1G1H1G1H1G1H1G1H1G1H1G1H1G1H1G1H1G1H1G1H1G2H1G1H1G1H1G6H2",
  "G1H2G1H2G1H2G1H2G16H1G2H4G3H1W1G31J5eG3VeG60J1fG1J24I4G8T1I2eG1I40JcT4I2fT59J19T6fJ1fT1G729cV2",
  "Gd2V1G81V3G3V2G362V4G9V1G4d96H10eG2H1G1H1G2HaG1H1G1H1G2H2G3H44G2H6aG26J7GcJ5G5H1G1H1LaHdG1H5G1",
  "H1G1H2G1H2G1H9J1O1K1O1K1N1P1O1K1N1P1O1K1N1P1O1K1N1P1O1K1N1P1O1K1N1P1O1K1N1P1O1K1N1P1O1K1N1P1O1",
  "K1N1P1O1K1N1P1O1K1N1P1O1K1O1K1O1K1O1K1O1K1O1K1O1K1N1P1O1K1N1P1O1K1N1P1O1K1N1P1O1K1O1K1N1P1O1K1",
  "O1K1N1P1O1K1N1P1O1K1O1K1G21O1K1N1P1O1K1O1K1O1K1O2K1O1K1O1K1O1K1N1P1N1P1O1K1O1K1O1K1O1K1O1K1O1K",
  "1O1K1N1O1K1N1O1K1N1P1O64K33N48P16O1cK1cN7P8K1O1G12N1K1N6K1N1K2N2K2N2K1N1K1N1K2N1K2N1K1N1K2N1K1",
  "N2K3N1K5N1K5N1K2N1K1N3K1N4G2N4K2N1K4N1K16N2K2N1K1N1K8N3K2G28OdG13WaG16W15G2W2J7S3G1S13G1S4G4O1",
  "P1O1G1O1G1O1P1O1P1O1P1O1P1O1P1O2K1O1K1O1K1O1K1O1K1N1P1O1K1O1K1N1P1O1K1O1K1N1P1O1K1N1P1O1K1N1P1",
  "O1K1N1P1O1K1N1P1O1K1O1K1O1K1O1K1O1K1N1P1O1K1N1P1O1K1N1P1O1K1N1P1O1K1N1P1O1K1N1P1O1K1N1P1O1K1N1",
  "P1O1K1N1P1O1K1N1P1O1K1N1P1O1K1N1P1O1K1N1P1O1K1N1P1O1K1N1P1O1K1O1K1O1K1N1P1O1K1O1K1O1K1O1K1G4X6",
  "0Q5eG3Q6G2Q6G2Q6G2Q3G3X7G1Q7G792V5G1V2aG1V9G8dfH1G1H1GeH1G82H2G21bH2G16eH2G1H1GfbH2G37cH1Gb825",
  "H7G56H6G23fL55G1L47G1L2G2L1G2L2G2L4G1LcG1L1G1L7G1L41G1L4G2L8G1L7G1L1cG1L4G1L5G1L1G3L7G1L154G2L",
  "124G2L32G1600L4G1L1bG1L2G1L1G2L1G1LaG1L4G1L1G1L1G6L1G4L1G1L1G1L1G1L3G1L2G1L1G2L1G1L1G1L1G1L1G1",
  "L1G1L2G1L1G2L4G1L7G1L4G1L4G1L1G1LaG1L11G5L3G1L5G1L11G244JbG5J1bI4G1T20G1aV3G23T1G6fT3GdT2cG4J9",
  "G7I2G99eLaGfc06H21eG"]

/-- The ways in which characters stand for others. -/
def variantNames : List (Char × String) := [
  ('G', ""), ('H', "canonical"), ('I', "circle"), ('J', "compat"), ('K', "final"), ('L',
  "font"), ('M', "fraction"), ('N', "initial"), ('O', "isolated"), ('P', "medial"), ('Q',
  "narrow"), ('R', "noBreak"), ('S', "small"), ('T', "square"), ('U', "sub"), ('V', "super"),
  ('W', "vertical"), ('X', "wide")]

/-- The way in which a character stands for others. -/
def variant (n : Nat) : String := told variantRows variantNames n

/-! ## Values -/

/-- The runs of characters with values: the first character, how many there are, the value of the
first one, how much values grow, and whether these are decimal digits, 2, other digits, 1, or other
numbers. -/
def valueRows : List String := [
  "30:10:0/1:1:2 b2:2:2/1:1:1 b9:1:1/1:0:1 bc:1:1/4:0:0 bd:1:1/2:0:0 be:1:3/4:0:0 660:10:0/1:1:2",
  "6f0:10:0/1:1:2 7c0:10:0/1:1:2 966:10:0/1:1:2 9e6:10:0/1:1:2 9f4:1:1/16:0:0 9f5:1:1/8:0:0",
  "9f6:1:3/16:0:0 9f7:1:1/4:0:0 9f8:1:3/4:0:0 9f9:1:16/1:0:0 a66:10:0/1:1:2 ae6:10:0/1:1:2",
  "b66:10:0/1:1:2 b72:1:1/4:0:0 b73:1:1/2:0:0 b74:1:3/4:0:0 b75:1:1/16:0:0 b76:1:1/8:0:0",
  "b77:1:3/16:0:0 be6:10:0/1:1:2 bf0:1:10/1:0:0 bf1:1:100/1:0:0 bf2:1:1000/1:0:0 c66:10:0/1:1:2",
  "c78:4:0/1:1:0 c7c:3:1/1:1:0 ce6:10:0/1:1:2 d58:1:1/160:0:0 d59:1:1/40:0:0 d5a:1:3/80:0:0",
  "d5b:1:1/20:0:0 d5c:1:1/10:0:0 d5d:1:3/20:0:0 d5e:1:1/5:0:0 d66:10:0/1:1:2 d70:1:10/1:0:0",
  "d71:1:100/1:0:0 d72:1:1000/1:0:0 d73:1:1/4:0:0 d74:1:1/2:0:0 d75:1:3/4:0:0 d76:1:1/16:0:0",
  "d77:1:1/8:0:0 d78:1:3/16:0:0 de6:10:0/1:1:2 e50:10:0/1:1:2 ed0:10:0/1:1:2 f20:10:0/1:1:2",
  "f2a:1:1/2:0:0 f2b:1:3/2:0:0 f2c:1:5/2:0:0 f2d:1:7/2:0:0 f2e:1:9/2:0:0 f2f:1:11/2:0:0",
  "f30:1:13/2:0:0 f31:1:15/2:0:0 f32:1:17/2:0:0 f33:1:-1/2:0:0 1040:10:0/1:1:2 1090:10:0/1:1:2",
  "1369:9:1/1:1:1 1372:10:10/1:10:0 137c:1:10000/1:0:0 16ee:3:17/1:1:0 17e0:10:0/1:1:2",
  "17f0:10:0/1:1:0 1810:10:0/1:1:2 1946:10:0/1:1:2 19d0:10:0/1:1:2 19da:1:1/1:0:1 1a80:10:0/1:1:2",
  "1a90:10:0/1:1:2 1b50:10:0/1:1:2 1bb0:10:0/1:1:2 1c40:10:0/1:1:2 1c50:10:0/1:1:2 2070:1:0/1:0:1",
  "2074:6:4/1:1:1 2080:10:0/1:1:1 2150:1:1/7:0:0 2151:1:1/9:0:0 2152:1:1/10:0:0 2153:1:1/3:0:0",
  "2154:1:2/3:0:0 2155:1:1/5:0:0 2156:1:2/5:0:0 2157:1:3/5:0:0 2158:1:4/5:0:0 2159:1:1/6:0:0",
  "215a:1:5/6:0:0 215b:1:1/8:0:0 215c:1:3/8:0:0 215d:1:5/8:0:0 215e:1:7/8:0:0 215f:1:1/1:0:0",
  "2160:12:1/1:1:0 216c:1:50/1:0:0 216d:1:100/1:0:0 216e:1:500/1:0:0 216f:1:1000/1:0:0",
  "2170:12:1/1:1:0 217c:1:50/1:0:0 217d:1:100/1:0:0 217e:1:500/1:0:0 217f:1:1000/1:0:0",
  "2180:1:1000/1:0:0 2181:1:5000/1:0:0 2182:1:10000/1:0:0 2185:1:6/1:0:0 2186:1:50/1:0:0",
  "2187:1:50000/1:0:0 2188:1:100000/1:0:0 2189:1:0/1:0:0 2460:9:1/1:1:1 2469:11:10/1:1:0",
  "2474:9:1/1:1:1 247d:11:10/1:1:0 2488:9:1/1:1:1 2491:11:10/1:1:0 24ea:1:0/1:0:1",
  "24eb:10:11/1:1:0 24f5:9:1/1:1:1 24fe:1:10/1:0:0 24ff:1:0/1:0:1 2776:9:1/1:1:1 277f:1:10/1:0:0",
  "2780:9:1/1:1:1 2789:1:10/1:0:0 278a:9:1/1:1:1 2793:1:10/1:0:0 2cfd:1:1/2:0:0 3007:1:0/1:0:0",
  "3021:9:1/1:1:0 3038:3:10/1:10:0 3192:4:1/1:1:0 3220:10:1/1:1:0 3248:8:10/1:10:0",
  "3251:15:21/1:1:0 3280:10:1/1:1:0 32b1:15:36/1:1:0 3405:1:5/1:0:0 3483:1:2/1:0:0 382a:1:5/1:0:0",
  "3b4d:1:7/1:0:0 4e00:1:1/1:0:0 4e03:1:7/1:0:0 4e07:1:10000/1:0:0 4e09:1:3/1:0:0 4e5d:1:9/1:0:0",
  "4e8c:1:2/1:0:0 4e94:1:5/1:0:0 4e96:1:4/1:0:0 4ebf:1:100000000/1:0:0 4ec0:1:10/1:0:0",
  "4edf:1:1000/1:0:0 4ee8:1:3/1:0:0 4f0d:1:5/1:0:0 4f70:1:100/1:0:0 5104:1:100000000/1:0:0",
  "5146:1:1000000000000/1:0:0 5169:1:2/1:0:0 516b:1:8/1:0:0 516d:1:6/1:0:0 5341:1:10/1:0:0",
  "5343:1:1000/1:0:0 5344:2:20/1:10:0 534c:1:40/1:0:0 53c1:1:3/1:0:0 53c2:1:3/1:0:0",
  "53c3:1:3/1:0:0 53c4:1:3/1:0:0 56db:1:4/1:0:0 58f1:1:1/1:0:0 58f9:1:1/1:0:0 5e7a:1:1/1:0:0",
  "5efe:1:9/1:0:0 5eff:1:20/1:0:0 5f0c:3:1/1:1:0 5f10:1:2/1:0:0 62fe:1:10/1:0:0 634c:1:8/1:0:0",
  "67d2:1:7/1:0:0 6f06:1:7/1:0:0 7396:1:9/1:0:0 767e:1:100/1:0:0 8086:1:4/1:0:0",
  "842c:1:10000/1:0:0 8cae:1:2/1:0:0 8cb3:1:2/1:0:0 8d30:1:2/1:0:0 9621:1:1000/1:0:0",
  "9646:1:6/1:0:0 964c:1:100/1:0:0 9678:1:6/1:0:0 96f6:1:0/1:0:0 a620:10:0/1:1:2 a6e6:9:1/1:1:0",
  "a6ef:1:0/1:0:0 a830:1:1/4:0:0 a831:1:1/2:0:0 a832:1:3/4:0:0 a833:1:1/16:0:0 a834:1:1/8:0:0",
  "a835:1:3/16:0:0 a8d0:10:0/1:1:2 a900:10:0/1:1:2 a9d0:10:0/1:1:2 a9f0:10:0/1:1:2",
  "aa50:10:0/1:1:2 abf0:10:0/1:1:2 f96b:1:3/1:0:0 f973:1:10/1:0:0 f978:1:2/1:0:0 f9b2:1:0/1:0:0",
  "f9d1:1:6/1:0:0 f9d3:1:6/1:0:0 f9fd:1:10/1:0:0 ff10:10:0/1:1:2 10107:10:1/1:1:0",
  "10111:9:20/1:10:0 1011a:9:200/1:100:0 10123:9:2000/1:1000:0 1012c:8:20000/1:10000:0",
  "10140:1:1/4:0:0 10141:1:1/2:0:0 10142:1:1/1:0:0 10143:1:5/1:0:0 10144:1:50/1:0:0",
  "10145:1:500/1:0:0 10146:1:5000/1:0:0 10147:1:50000/1:0:0 10148:1:5/1:0:0 10149:1:10/1:0:0",
  "1014a:1:50/1:0:0 1014b:1:100/1:0:0 1014c:1:500/1:0:0 1014d:1:1000/1:0:0 1014e:1:5000/1:0:0",
  "1014f:1:5/1:0:0 10150:1:10/1:0:0 10151:1:50/1:0:0 10152:1:100/1:0:0 10153:1:500/1:0:0",
  "10154:1:1000/1:0:0 10155:1:10000/1:0:0 10156:1:50000/1:0:0 10157:1:10/1:0:0 10158:1:1/1:0:0",
  "10159:1:1/1:0:0 1015a:2:1/1:1:0 1015c:1:2/1:0:0 1015d:1:2/1:0:0 1015e:1:2/1:0:0",
  "1015f:1:5/1:0:0 10160:1:10/1:0:0 10161:1:10/1:0:0 10162:1:10/1:0:0 10163:1:10/1:0:0",
  "10164:1:10/1:0:0 10165:1:30/1:0:0 10166:1:50/1:0:0 10167:1:50/1:0:0 10168:1:50/1:0:0",
  "10169:1:50/1:0:0 1016a:1:100/1:0:0 1016b:1:300/1:0:0 1016c:1:500/1:0:0 1016d:1:500/1:0:0",
  "1016e:1:500/1:0:0 1016f:1:500/1:0:0 10170:1:500/1:0:0 10171:1:1000/1:0:0 10172:1:5000/1:0:0",
  "10173:1:5/1:0:0 10174:1:50/1:0:0 10175:1:1/2:0:0 10176:1:1/2:0:0 10177:1:2/3:0:0",
  "10178:1:3/4:0:0 1018a:1:0/1:0:0 1018b:1:1/4:0:0 102e1:10:1/1:1:0 102eb:9:20/1:10:0",
  "102f4:8:200/1:100:0 10320:1:1/1:0:0 10321:1:5/1:0:0 10322:1:10/1:0:0 10323:1:50/1:0:0",
  "10341:1:90/1:0:0 1034a:1:900/1:0:0 103d1:2:1/1:1:0 103d3:2:10/1:10:0 103d5:1:100/1:0:0",
  "104a0:10:0/1:1:2 10858:3:1/1:1:0 1085b:2:10/1:10:0 1085d:1:100/1:0:0 1085e:1:1000/1:0:0",
  "1085f:1:10000/1:0:0 10879:5:1/1:1:0 1087e:2:10/1:10:0 108a7:4:1/1:1:0 108ab:2:4/1:1:0",
  "108ad:2:10/1:10:0 108af:1:100/1:0:0 108fb:1:1/1:0:0 108fc:1:5/1:0:0 108fd:2:10/1:10:0",
  "108ff:1:100/1:0:0 10916:1:1/1:0:0 10917:2:10/1:10:0 10919:1:100/1:0:0 1091a:2:2/1:1:0",
  "109bc:1:11/12:0:0 109bd:1:1/2:0:0 109c0:10:1/1:1:0 109ca:6:20/1:10:0 109d2:10:100/1:100:0",
  "109dc:9:2000/1:1000:0 109e5:9:20000/1:10000:0 109ee:1:200000/1:0:0 109ef:1:300000/1:0:0",
  "109f0:1:400000/1:0:0 109f1:1:500000/1:0:0 109f2:1:600000/1:0:0 109f3:1:700000/1:0:0",
  "109f4:1:800000/1:0:0 109f5:1:900000/1:0:0 109f6:1:1/12:0:0 109f7:1:1/6:0:0 109f8:1:1/4:0:0",
  "109f9:1:1/3:0:0 109fa:1:5/12:0:0 109fb:1:1/2:0:0 109fc:1:7/12:0:0 109fd:1:2/3:0:0",
  "109fe:1:3/4:0:0 109ff:1:5/6:0:0 10a40:4:1/1:1:1 10a44:2:10/1:10:0 10a46:1:100/1:0:0",
  "10a47:1:1000/1:0:0 10a48:1:1/2:0:0 10a7d:1:1/1:0:0 10a7e:1:50/1:0:0 10a9d:1:1/1:0:0",
  "10a9e:2:10/1:10:0 10aeb:1:1/1:0:0 10aec:1:5/1:0:0 10aed:2:10/1:10:0 10aef:1:100/1:0:0",
  "10b58:4:1/1:1:0 10b5c:2:10/1:10:0 10b5e:1:100/1:0:0 10b5f:1:1000/1:0:0 10b78:4:1/1:1:0",
  "10b7c:2:10/1:10:0 10b7e:1:100/1:0:0 10b7f:1:1000/1:0:0 10ba9:4:1/1:1:0 10bad:2:10/1:10:0",
  "10baf:1:100/1:0:0 10cfa:1:1/1:0:0 10cfb:1:5/1:0:0 10cfc:1:10/1:0:0 10cfd:1:50/1:0:0",
  "10cfe:1:100/1:0:0 10cff:1:1000/1:0:0 10d30:10:0/1:1:2 10e60:9:1/1:1:1 10e69:10:10/1:10:0",
  "10e73:8:200/1:100:0 10e7b:1:1/2:0:0 10e7c:1:1/4:0:0 10e7d:1:1/3:0:0 10e7e:1:2/3:0:0",
  "10f1d:5:1/1:1:0 10f22:3:10/1:10:0 10f25:1:100/1:0:0 10f26:1:1/2:0:0 10f51:1:1/1:0:0",
  "10f52:2:10/1:10:0 10f54:1:100/1:0:0 10fc5:4:1/1:1:0 10fc9:2:10/1:10:0 10fcb:1:100/1:0:0",
  "11052:9:1/1:1:1 1105b:10:10/1:10:0 11065:1:1000/1:0:0 11066:10:0/1:1:2 110f0:10:0/1:1:2",
  "11136:10:0/1:1:2 111d0:10:0/1:1:2 111e1:10:1/1:1:0 111eb:9:20/1:10:0 111f4:1:1000/1:0:0",
  "112f0:10:0/1:1:2 11450:10:0/1:1:2 114d0:10:0/1:1:2 11650:10:0/1:1:2 116c0:10:0/1:1:2",
  "11730:10:0/1:1:2 1173a:2:10/1:10:0 118e0:10:0/1:1:2 118ea:9:10/1:10:0 11950:10:0/1:1:2",
  "11c50:10:0/1:1:2 11c5a:10:1/1:1:0 11c64:9:20/1:10:0 11d50:10:0/1:1:2 11da0:10:0/1:1:2",
  "11fc0:1:1/320:0:0 11fc1:1:1/160:0:0 11fc2:1:1/80:0:0 11fc3:1:1/64:0:0 11fc4:1:1/40:0:0",
  "11fc5:1:1/32:0:0 11fc6:1:3/80:0:0 11fc7:1:3/64:0:0 11fc8:1:1/20:0:0 11fc9:1:1/16:0:0",
  "11fca:1:1/16:0:0 11fcb:1:1/10:0:0 11fcc:1:1/8:0:0 11fcd:1:3/20:0:0 11fce:1:3/16:0:0",
  "11fcf:1:1/5:0:0 11fd0:1:1/4:0:0 11fd1:1:1/2:0:0 11fd2:1:1/2:0:0 11fd3:1:3/4:0:0",
  "11fd4:1:1/320:0:0 12400:8:2/1:1:0 12408:7:3/1:1:0 1240f:6:4/1:1:0 12415:9:1/1:1:0",
  "1241e:5:1/1:1:0 12423:2:2/1:1:0 12425:7:3/1:1:0 1242c:3:1/1:1:0 1242f:3:3/1:1:0",
  "12432:1:216000/1:0:0 12433:1:432000/1:0:0 12434:3:1/1:1:0 12437:3:3/1:1:0 1243a:1:3/1:0:0",
  "1243b:2:3/1:1:0 1243d:1:4/1:0:0 1243e:1:4/1:0:0 1243f:1:4/1:0:0 12440:2:6/1:1:0",
  "12442:1:7/1:0:0 12443:2:7/1:1:0 12445:2:8/1:1:0 12447:1:9/1:0:0 12448:1:9/1:0:0",
  "12449:1:9/1:0:0 1244a:5:2/1:1:0 1244f:4:1/1:1:0 12453:2:4/1:1:0 12455:1:5/1:0:0",
  "12456:2:2/1:1:0 12458:2:1/1:1:0 1245a:1:1/3:0:0 1245b:1:2/3:0:0 1245c:1:5/6:0:0",
  "1245d:1:1/3:0:0 1245e:1:2/3:0:0 1245f:1:1/8:0:0 12460:1:1/4:0:0 12461:1:1/6:0:0",
  "12462:1:1/4:0:0 12463:1:1/4:0:0 12464:1:1/2:0:0 12465:1:1/3:0:0 12466:1:2/3:0:0",
  "12467:2:40/1:10:0 12469:6:4/1:1:0 16a60:10:0/1:1:2 16ac0:10:0/1:1:2 16b50:10:0/1:1:2",
  "16b5b:1:10/1:0:0 16b5c:1:100/1:0:0 16b5d:1:10000/1:0:0 16b5e:1:1000000/1:0:0",
  "16b5f:1:100000000/1:0:0 16b60:1:10000000000/1:0:0 16b61:1:1000000000000/1:0:0 16e80:20:0/1:1:0",
  "16e94:3:1/1:1:0 1d2e0:20:0/1:1:0 1d360:10:1/1:1:0 1d36a:8:20/1:10:0 1d372:5:1/1:1:0",
  "1d377:1:1/1:0:0 1d378:1:5/1:0:0 1d7ce:10:0/1:1:2 1d7d8:10:0/1:1:2 1d7e2:10:0/1:1:2",
  "1d7ec:10:0/1:1:2 1d7f6:10:0/1:1:2 1e140:10:0/1:1:2 1e2f0:10:0/1:1:2 1e8c7:9:1/1:1:0",
  "1e950:10:0/1:1:2 1ec71:10:1/1:1:0 1ec7b:9:20/1:10:0 1ec84:9:200/1:100:0 1ec8d:9:2000/1:1000:0",
  "1ec96:9:20000/1:10000:0 1ec9f:1:200000/1:0:0 1eca0:1:100000/1:0:0 1eca1:1:10000000/1:0:0",
  "1eca2:1:20000000/1:0:0 1eca3:9:1/1:1:0 1ecad:1:1/4:0:0 1ecae:1:1/2:0:0 1ecaf:1:3/4:0:0",
  "1ecb1:2:1/1:1:0 1ecb3:1:10000/1:0:0 1ecb4:1:100000/1:0:0 1ed01:10:1/1:1:0 1ed0b:9:20/1:10:0",
  "1ed14:9:200/1:100:0 1ed1d:9:2000/1:1000:0 1ed26:8:20000/1:10000:0 1ed2f:9:2/1:1:0",
  "1ed38:1:400/1:0:0 1ed39:1:600/1:0:0 1ed3a:1:2000/1:0:0 1ed3b:1:10000/1:0:0 1ed3c:1:1/2:0:0",
  "1ed3d:1:1/6:0:0 1f100:1:0/1:0:1 1f101:10:0/1:1:1 1f10b:1:0/1:0:0 1f10c:1:0/1:0:0",
  "1fbf0:10:0/1:1:2 20001:1:7/1:0:0 20064:1:4/1:0:0 200e2:1:4/1:0:0 20121:1:5/1:0:0",
  "2092a:1:1/1:0:0 20983:1:30/1:0:0 2098c:1:40/1:0:0 2099c:1:40/1:0:0 20aea:1:6/1:0:0",
  "20afd:1:3/1:0:0 20b19:1:3/1:0:0 22390:1:2/1:0:0 22998:1:3/1:0:0 23b1b:1:3/1:0:0",
  "2626d:1:4/1:0:0 2f890:1:9/1:0:0"]

/-- The number that a text with a sign or without writes. -/
def signed (s : String) : Int :=
  match s.toList with
  | '-' :: cs => -(positional 10 (cs.filterMap (digitOf? 10)) : Nat)
  | cs => (positional 10 (cs.filterMap (digitOf? 10)) : Nat)

/-- The value of a character in a run, as a numerator and a denominator, and what kind of digit it
is. -/
def valueInRun? (n : Nat) (run : String) : Option (Int × Nat × Nat) :=
  match (split ':' run), run with
  | [start, count, value, growth, kind], _ =>
    let first := positional 16 (start.toList.filterMap (digitOf? 16))
    let number := fun (s : String) => (signed s).toNat
    if first ≤ n && n < first + number count then
      match split '/' value with
      | [a, b] => some (signed a + signed growth * (n - first : Nat), number b, number kind)
      | _ => none
    else none
  | _, _ => none

/-- The value of a character, as a numerator and a denominator, and what kind of digit it is. -/
def value? (n : Nat) : Option (Int × Nat × Nat) :=
  (valueRows.flatMap (split ' ')).findSome? (valueInRun? n)

end Property

end CommandConsole.Text
