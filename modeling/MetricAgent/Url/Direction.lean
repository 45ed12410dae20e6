import MetricAgent.Text.Composition
import MetricAgent.Url.Mapping

/-!
Which way the characters of domain names are written, and which letters join. The tables tell about
characters that names may hold; where a table depends on another one, its ranges run across the
characters of that one.
-/

namespace MetricAgent.Url

open Text

/-- Marks that take room of their own. -/
def spacingRanges : Array (Nat × Nat) := CodeTable.ranges
  "903 93B 93E-940 949-94C 94E-94F 982-983 9BE-9C0 9C7-9CC 9D7 A03 A3E-A40 A83 ABE-AC0 AC9-ACC
    B02-B03 B3E B40 B47-B4C B57 BBE-BBF BC1-BCC BD7 C01-C03 C41-C44 C82-C83 CBE-CCB CD5-CD6 CF3
    D02-D03 D3E-D40 D46-D4C D57 D82-D83 DCF-DD1 DD8-DF3 F3E-F3F F7F 102B-102C 1031 1038
    103B-103C 1056-1057 1062-106D 1083-1084 1087-108C 108F-109C 1715 1734 17B6 17BE-17C5
    17C7-17C8 1923-1926 1929-1931 1933-1938 1A19-1A1A 1A55 1A57 1A61 1A63-1A64 1A6D-1A72 1B04
    1B35 1B3B 1B3D-1B41 1B43-1B44 1B82-1BA1 1BA6-1BA7 1BAA 1BE7 1BEA-1BEC 1BEE 1BF2-1C2B
    1C34-1C35 1CE1 1CF7 302E-302F A823-A824 A827 A880-A8C3 A952-A953 A983 A9B4-A9B5 A9BA-A9BB
    A9BE-A9C0 AA2F-AA30 AA33-AA34 AA4D-AA7B AA7D AAEB AAEE-AAF5 ABE3-ABE4 ABE6-ABE7 ABE9-ABEC
    11000 11002 11082-110B2 110B7-110B8 1112C 11145-11146 11182-111B5 111BF-111C0 111CE
    1122C-1122E 11232-11233 11235 112E0-112E2 11302-11303 1133E-1133F 11341-11363 113B8-113BA
    113C2-113CD 113CF 11435-11437 11440-11441 11445 114B0-114B2 114B9 114BB-114BE 114C1
    115AF-115B1 115B8-115BB 115BE 11630-11632 1163B-1163C 1163E 116AC 116AE-116AF 116B6 1171E
    11720-11721 11726 1182C-1182E 11838 11930-11938 1193D 11940-11942 119D1-119D3 119DC-119DF
    119E4 11A07-11A08 11A39 11A57-11A58 11A97 11B61 11B65 11B67-11C2F 11C3E-11C3F 11CA9 11CB1
    11CB4 11D8A-11D8E 11D93-11D94 11D96 11EF5-11EF6 11F03-11F35 11F3E-11F3F 11F41 1612A-1612C
    16F51-16F87 16FF0-16FF1 1D165-1D166 1D16D-1D172"

/-- A mark on the character before it. -/
def isNonspacing (c : Char) : Bool := isMark c && !inRanges c.toNat spacingRanges

/-! ### Directions -/

/-- What a character does to the direction of a text. -/
inductive Direction where
  | leftToRight
  | rightToLeft
  | arabicNumber
  | europeanNumber
  /-- The direction of the character before it. -/
  | nonspacing
  /-- The direction of the text around it. -/
  | neutral
  deriving DecidableEq, Repr

def rightToLeftRanges : Array (Nat × Nat) := CodeTable.ranges
  "5BE-5F4 608 60B 60D 61B-64A 66D-6D5 6E5-6E6 6EE-6EF 6FA-7F5 7FA-8C9 FBB2-FBC2 FE73
    10800-1091B 10920-10B35 10B40-10D23 10D4A-10D4F 10D6F-10D8F 10E80-10ED0 10F00-10FF6
    1E800-1ED3D"

def arabicNumberRanges : Array (Nat × Nat) := CodeTable.ranges
  "660-669 66B-66C 10D30-10D49 10E60-10E7E"

def europeanNumberRanges : Array (Nat × Nat) := CodeTable.ranges
  "30-39 6F0-6F9 102E1-102FB"

def neutralRanges : Array (Nat × Nat) := CodeTable.ranges
  "21-2F 3A-60 7B-D7 F7 2B9-2BA 2C2-2CF 2D2-2ED 2EF-2FF 375 3F6 58A-58F 606-607 609-60A 60C
    60E-60F 66A 6DE 6E9 7F6-7F9 9F2-9F3 9FB AF1 BF3-BFA C78-C7E E3F F3A-F3D 1390-1399 1400
    169B-169C 17DB 17F0-180A 1940-1945 19DE-19FF 200C-214D 218A-2335 237B-2394 2396-26AB
    26AD-27FF 2900-2BFF 2CE5-2CEA 2CF9-2CFF 2E00-3004 3008-3020 3030 3037 303D-303F 30A0 30FB
    31C0-31E5 4DC0-4DFF A490-A4C6 A60D-A60F A673-A67F A700-A721 A788 A828-A82B A838-A839
    A874-A877 AB6A-AB6B FBC3-FE46 10101 10140-1018C 10190-101A0 1091F 10B39-10B3F 10D6E
    10ED1-10ED8 11052-11065 11660-1166C 11FD5-11FF1 16FE2 1CC00-1CEF0 1D1E9-1D245 1D300-1D356
    1E2FF 1EEF0-1F12F 1F16D-1F16F 1F1AD 1F260-1FBFA"

def direction (c : Char) : Direction :=
  if isNonspacing c then .nonspacing
  else if inRanges c.toNat rightToLeftRanges then .rightToLeft
  else if inRanges c.toNat arabicNumberRanges then .arabicNumber
  else if inRanges c.toNat europeanNumberRanges then .europeanNumber
  else if inRanges c.toNat neutralRanges then .neutral
  else .leftToRight

/--
A label that reads one way next to text that is written from right to left: it starts with a letter,
goes on in the direction of that, and ends with a letter or a digit and marks on it. From right to
left it has digits of one kind.
-/
def readsOneWay (label : List Char) : Bool :=
  let directions := label.map direction
  let ends (ds : List Direction) : Bool :=
    (directions.reverse.find? (· ≠ .nonspacing)).any ds.contains
  match directions.head? with
  | none => true
  | some .leftToRight =>
    !directions.contains .rightToLeft && !directions.contains .arabicNumber &&
      ends [.leftToRight, .europeanNumber]
  | some .rightToLeft =>
    !directions.contains .leftToRight &&
      !(directions.contains .europeanNumber && directions.contains .arabicNumber) &&
      ends [.rightToLeft, .europeanNumber, .arabicNumber]
  | some _ => false

/-- Some character is written from right to left. -/
def goesLeft (label : List Char) : Bool :=
  label.any fun c => direction c = .rightToLeft || direction c = .arabicNumber

/-! ### Joining letters -/

/-- Characters that letters on both sides of them join across. -/
def isTransparent (c : Char) : Bool :=
  isNonspacing c || [0xCBF, 0xCC6, 0x11A07, 0x11A08, 0x11C3F, 0x1E94B].contains c.toNat

/-- Letters that join the letter behind them. -/
def forwardRanges : Array (Nat × Nat) := CodeTable.ranges
  "620 626 628 62A-62E 633-63F 641-647 649-64A 66E-66F 679-687 69A-6BF 6C1-6C2 6CC 6CE 6D0-6D1
    6FA-6FC 6FF 712-714 71A-71D 71F-727 729 72B 72D-72E 74E-758 75C-76A 76D-770 772 775-777
    77A-77F 7CA-7EA 841-845 848 84A-853 855 860 862-865 868 886 889-88D 88F-8A9 8AF-8B0 8B3-8B8
    8BA-8C8 1807 1820-1878 1887-18AA A840-A872 10AC0-10AC4 10ACD 10AD3-10ADC 10ADE-10AE0
    10AEB-10AEE 10B80 10B82 10B86-10B88 10B8A-10B8B 10B8D 10B90 10BAD-10BAE 10D00-10D21 10D23
    10EC3-10EC4 10EC6-10EC7 10F30-10F32 10F34-10F44 10F51-10F53 10F70-10F73 10F76-10F81 10FB0
    10FB2-10FB3 10FB8 10FBB-10FBC 10FBE-10FBF 10FC1 10FC4 10FCA-10FCB 1E922-1E943"

/-- Letters that join the letter in front of them. -/
def backwardRanges : Array (Nat × Nat) := CodeTable.ranges
  "620 622-63F 641-64A 66E-673 679-6D3 6D5 6EE-6EF 6FA-6FC 6FF 710-77F 7CA-7EA 840-858 860
    862-865 867-882 886 889-8AC 8AE-8C8 1807 1820-1878 1887-18AA A840-A871 10AC0-10AC5 10AC7
    10AC9-10ACA 10ACE-10AD6 10AD8-10AE1 10AE4-10AEF 10B80-10B91 10BA9-10BAE 10D01-10D23
    10EC2-10EC4 10EC6-10EC7 10F30-10F44 10F51-10F54 10F70-10F81 10FB0 10FB2-10FB6 10FB8-10FBF
    10FC1-10FC4 10FC9-10FCA 1E922-1E943"

/-- The first character that joins are not made across is one of some ranges. -/
def meets (ranges : Array (Nat × Nat)) (s : List Char) : Bool :=
  (s.find? fun c => !isTransparent c).any fun c => inRanges c.toNat ranges

/--
A joiner stands where it has a meaning: behind a sign that asks for it or, if it keeps letters
apart, between two that would join. What is in front of it is given from its end.
-/
def isWellPlaced (front : List Char) (c : Char) (behind : List Char) : Bool :=
  front.head?.any (fun d => combiningClass d = joiningClass) ||
    (c.toNat = 0x200C && meets forwardRanges front && meets backwardRanges behind)

/-- All joiners of a text are well placed behind another text, which is given from its end. -/
def joinsWell (front : List Char) : List Char → Bool
  | [] => true
  | c :: s => (!isJoiner c || isWellPlaced front c s) && joinsWell (c :: front) s

end MetricAgent.Url
