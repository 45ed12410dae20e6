import MetricAgent.Text.CodeTable

/-!
Canonical composition: a letter and the marks behind it are written as one character where there is
one, after the marks have been put in order. Two texts that look the same have the same composed
form.
-/

namespace MetricAgent.Text

/-! ### Classes of marks -/

/-- All combining marks with their classes; marks of different classes do not block each other. -/
def markClasses : Array ((Nat × Nat) × Nat) := CodeTable.numberedRanges
  "300-314:230 315:232 316-319:220 31A:232 31B:216 31C-320:220 321-322:202 323-326:220
    327-328:202 329-333:220 334-338:1 339-33C:220 33D-344:230 345:240 346:230 347-349:220
    34A-34C:230 34D-34E:220 34F:0 350-352:230 353-356:220 357:230 358:232 359-35A:220 35B:230
    35C:233 35D-35E:234 35F:233 360-361:234 362:233 363-36F:230 483-487:230 488-489:0 591:220
    592-595:230 596:220 597-599:230 59A:222 59B:220 59C-5A1:230 5A2-5A7:220 5A8-5A9:230 5AA:220
    5AB-5AC:230 5AD:222 5AE:228 5AF:230 5B0:10 5B1:11 5B2:12 5B3:13 5B4:14 5B5:15 5B6:16 5B7:17
    5B8:18 5B9-5BA:19 5BB:20 5BC:21 5BD:22 5BF:23 5C1:24 5C2:25 5C4:230 5C5:220 5C7:18 610-617:230
    618:30 619:31 61A:32 64B:27 64C:28 64D:29 64E:30 64F:31 650:32 651:33 652:34 653-654:230
    655-656:220 657-65B:230 65C:220 65D-65E:230 65F:220 670:35 6D6-6DC:230 6DF-6E2:230 6E3:220
    6E4:230 6E7-6E8:230 6EA:220 6EB-6EC:230 6ED:220 711:36 730:230 731:220 732-733:230 734:220
    735-736:230 737-739:220 73A:230 73B-73C:220 73D:230 73E:220 73F-741:230 742:220 743:230
    744:220 745:230 746:220 747:230 748:220 749-74A:230 7A6-7B0:0 7EB-7F1:230 7F2:220 7F3:230
    7FD:220 816-819:230 81B-823:230 825-827:230 829-82D:230 859-85B:220 897-898:230 899-89B:220
    89C-89F:230 8CA-8CE:230 8CF-8D3:220 8D4-8E1:230 8E3:220 8E4-8E5:230 8E6:220 8E7-8E8:230
    8E9:220 8EA-8EC:230 8ED-8EF:220 8F0:27 8F1:28 8F2:29 8F3-8F5:230 8F6:220 8F7-8F8:230
    8F9-8FA:220 8FB-8FF:230 900-903:0 93A-93B:0 93C:7 93E-94C:0 94D:9 94E-94F:0 951:230 952:220
    953-954:230 955-957:0 962-963:0 981-983:0 9BC:7 9BE-9C4:0 9C7-9C8:0 9CB-9CC:0 9CD:9 9D7:0
    9E2-9E3:0 9FE:230 A01-A03:0 A3C:7 A3E-A42:0 A47-A48:0 A4B-A4C:0 A4D:9 A51:0 A70-A71:0 A75:0
    A81-A83:0 ABC:7 ABE-AC5:0 AC7-AC9:0 ACB-ACC:0 ACD:9 AE2-AE3:0 AFA-AFF:0 B01-B03:0 B3C:7
    B3E-B44:0 B47-B48:0 B4B-B4C:0 B4D:9 B55-B57:0 B62-B63:0 B82:0 BBE-BC2:0 BC6-BC8:0 BCA-BCC:0
    BCD:9 BD7:0 C00-C04:0 C3C:7 C3E-C44:0 C46-C48:0 C4A-C4C:0 C4D:9 C55:84 C56:91 C62-C63:0
    C81-C83:0 CBC:7 CBE-CC4:0 CC6-CC8:0 CCA-CCC:0 CCD:9 CD5-CD6:0 CE2-CE3:0 CF3:0 D00-D03:0
    D3B-D3C:9 D3E-D44:0 D46-D48:0 D4A-D4C:0 D4D:9 D57:0 D62-D63:0 D81-D83:0 DCA:9 DCF-DD4:0 DD6:0
    DD8-DDF:0 DF2-DF3:0 E31:0 E34-E37:0 E38-E39:103 E3A:9 E47:0 E48-E4B:107 E4C-E4E:0 EB1:0
    EB4-EB7:0 EB8-EB9:118 EBA:9 EBB-EBC:0 EC8-ECB:122 ECC-ECE:0 F18-F19:220 F35:220 F37:220
    F39:216 F3E-F3F:0 F71:129 F72:130 F73:0 F74:132 F75-F79:0 F7A-F7D:130 F7E-F7F:0 F80:130 F81:0
    F82-F83:230 F84:9 F86-F87:230 F8D-F97:0 F99-FBC:0 FC6:220 102B-1036:0 1037:7 1038:0
    1039-103A:9 103B-103E:0 1056-1059:0 105E-1060:0 1062-1064:0 1067-106D:0 1071-1074:0
    1082-108C:0 108D:220 108F:0 109A-109D:0 135D-135F:230 1712-1713:0 1714-1715:9 1732-1733:0
    1734:9 1752-1753:0 1772-1773:0 17B4-17D1:0 17D2:9 17D3:0 17DD:230 180B-180D:0 180F:0
    1885-1886:0 18A9:228 1920-192B:0 1930-1938:0 1939:222 193A:230 193B:220 1A17:230 1A18:220
    1A19-1A1B:0 1A55-1A5E:0 1A60:9 1A61-1A74:0 1A75-1A7C:230 1A7F:220 1AB0-1AB4:230 1AB5-1ABA:220
    1ABB-1ABC:230 1ABD:220 1ABE:0 1ABF-1AC0:220 1AC1-1AC2:230 1AC3-1AC4:220 1AC5-1AC9:230 1ACA:220
    1ACB-1ADC:230 1ADD:220 1AE0-1AE5:230 1AE6:220 1AE7-1AEA:230 1AEB:234 1B00-1B04:0 1B34:7
    1B35-1B43:0 1B44:9 1B6B:230 1B6C:220 1B6D-1B73:230 1B80-1B82:0 1BA1-1BA9:0 1BAA-1BAB:9
    1BAC-1BAD:0 1BE6:7 1BE7-1BF1:0 1BF2-1BF3:9 1C24-1C36:0 1C37:7 1CD0-1CD2:230 1CD4:1
    1CD5-1CD9:220 1CDA-1CDB:230 1CDC-1CDF:220 1CE0:230 1CE1:0 1CE2-1CE8:1 1CED:220 1CF4:230 1CF7:0
    1CF8-1CF9:230 1DC0-1DC1:230 1DC2:220 1DC3-1DC9:230 1DCA:220 1DCB-1DCC:230 1DCD:234 1DCE:214
    1DCF:220 1DD0:202 1DD1-1DF5:230 1DF6:232 1DF7-1DF8:228 1DF9:220 1DFA:218 1DFB:230 1DFC:233
    1DFD:220 1DFE:230 1DFF:220 20D0-20D1:230 20D2-20D3:1 20D4-20D7:230 20D8-20DA:1 20DB-20DC:230
    20DD-20E0:0 20E1:230 20E2-20E4:0 20E5-20E6:1 20E7:230 20E8:220 20E9:230 20EA-20EB:1
    20EC-20EF:220 20F0:230 2CEF-2CF1:230 2D7F:9 2DE0-2DFF:230 302A:218 302B:228 302C:232 302D:222
    302E-302F:224 3099-309A:8 A66F:230 A670-A672:0 A674-A67D:230 A69E-A69F:230 A6F0-A6F1:230
    A802:0 A806:9 A80B:0 A823-A827:0 A82C:9 A880-A881:0 A8B4-A8C3:0 A8C4:9 A8C5:0 A8E0-A8F1:230
    A8FF:0 A926-A92A:0 A92B-A92D:220 A947-A952:0 A953:9 A980-A983:0 A9B3:7 A9B4-A9BF:0 A9C0:9
    A9E5:0 AA29-AA36:0 AA43:0 AA4C-AA4D:0 AA7B-AA7D:0 AAB0:230 AAB2-AAB3:230 AAB4:220
    AAB7-AAB8:230 AABE-AABF:230 AAC1:230 AAEB-AAEF:0 AAF5:0 AAF6:9 ABE3-ABEA:0 ABEC:0 ABED:9
    FB1E:26 FE00-FE0F:0 FE20-FE26:230 FE27-FE2D:220 FE2E-FE2F:230 101FD:220 102E0:220
    10376-1037A:230 10A01-10A03:0 10A05-10A06:0 10A0C:0 10A0D:220 10A0E:0 10A0F:230 10A38:230
    10A39:1 10A3A:220 10A3F:9 10AE5:230 10AE6:220 10D24-10D27:230 10D69-10D6D:230 10EAB-10EAC:230
    10EFA-10EFB:220 10EFC:0 10EFD-10EFF:220 10F46-10F47:220 10F48-10F4A:230 10F4B:220 10F4C:230
    10F4D-10F50:220 10F82:230 10F83:220 10F84:230 10F85:220 11000-11002:0 11038-11045:0 11046:9
    11070:9 11073-11074:0 1107F:9 11080-11082:0 110B0-110B8:0 110B9:9 110BA:7 110C2:0
    11100-11102:230 11127-11132:0 11133-11134:9 11145-11146:0 11173:7 11180-11182:0 111B3-111BF:0
    111C0:9 111C9:0 111CA:7 111CB-111CC:0 111CE-111CF:0 1122C-11234:0 11235:9 11236:7 11237:0
    1123E:0 11241:0 112DF-112E8:0 112E9:7 112EA:9 11300-11303:0 1133B-1133C:7 1133E-11344:0
    11347-11348:0 1134B-1134C:0 1134D:9 11357:0 11362-11363:0 11366-1136C:230 11370-11374:230
    113B8-113C0:0 113C2:0 113C5:0 113C7-113CA:0 113CC-113CD:0 113CE-113D0:9 113D2:0 113E1-113E2:0
    11435-11441:0 11442:9 11443-11445:0 11446:7 1145E:230 114B0-114C1:0 114C2:9 114C3:7
    115AF-115B5:0 115B8-115BE:0 115BF:9 115C0:7 115DC-115DD:0 11630-1163E:0 1163F:9 11640:0
    116AB-116B5:0 116B6:9 116B7:7 1171D-1172A:0 1172B:9 1182C-11838:0 11839:9 1183A:7
    11930-11935:0 11937-11938:0 1193B-1193C:0 1193D-1193E:9 11940:0 11942:0 11943:7 119D1-119D7:0
    119DA-119DF:0 119E0:9 119E4:0 11A01-11A0A:0 11A33:0 11A34:9 11A35-11A39:0 11A3B-11A3E:0
    11A47:9 11A51-11A5B:0 11A8A-11A98:0 11A99:9 11B60-11B67:0 11C2F-11C36:0 11C38-11C3E:0 11C3F:9
    11C92-11CA7:0 11CA9-11CB6:0 11D31-11D36:0 11D3A:0 11D3C-11D3D:0 11D3F-11D41:0 11D42:7 11D43:0
    11D44-11D45:9 11D47:0 11D8A-11D8E:0 11D90-11D91:0 11D93-11D96:0 11D97:9 11EF3-11EF6:0
    11F00-11F01:0 11F03:0 11F34-11F3A:0 11F3E-11F40:0 11F41-11F42:9 11F5A:0 13440:0 13447-13455:0
    1611E-1612E:0 1612F:9 16AF0-16AF4:1 16B30-16B36:230 16F4F:0 16F51-16F87:0 16F8F-16F92:0
    16FE4:0 16FF0-16FF1:6 1BC9D:0 1BC9E:1 1CF00-1CF2D:0 1CF30-1CF46:0 1D165-1D166:216
    1D167-1D169:1 1D16D:226 1D16E-1D172:216 1D17B-1D182:220 1D185-1D189:230 1D18A-1D18B:220
    1D1AA-1D1AD:230 1D242-1D244:230 1DA00-1DA36:0 1DA3B-1DA6C:0 1DA75:0 1DA84:0 1DA9B-1DA9F:0
    1DAA1-1DAAF:0 1E000-1E006:230 1E008-1E018:230 1E01B-1E021:230 1E023-1E024:230 1E026-1E02A:230
    1E08F:230 1E130-1E136:230 1E2AE:230 1E2EC-1E2EF:230 1E4EC-1E4ED:232 1E4EE:220 1E4EF:230
    1E5EE:230 1E5EF:220 1E6E3:230 1E6E6:230 1E6EE-1E6EF:230 1E6F5:230 1E8D0-1E8D6:220
    1E944-1E949:230 1E94A:7 E0100-E01EF:0"

/-- The class of a mark. -/
def markClass? (c : Char) : Option Nat :=
  (markClasses.find? fun (r, _) => r.1 ≤ c.toNat && c.toNat ≤ r.2).map Prod.snd

def isMark (c : Char) : Bool := (markClass? c).isSome

/-- The combining class, which is zero for what stands at its place. -/
def combiningClass (c : Char) : Nat := (markClass? c).getD 0

/-- The class of the signs that join the letter behind them to the one in front. -/
def joiningClass : Nat := 9

/-! ### Compositions -/

/-- Which two characters make up a third one. -/
def compositions : Array (Nat × Nat × Nat) := CodeTable.triples
  "@300 41+C0 45+C8 49+CC 4E+1F8 4F+D2 55+D9 57+1E80 59+1EF2 61+E0 65+E8 69+EC 6E+1F9 6F+F2 75+F9
    77+1E81 79+1EF3 A8+1FED C2+1EA6 CA+1EC0 D4+1ED2 DC+1DB E2+1EA7 EA+1EC1 F4+1ED3 FC+1DC 102+1EB0
    103+1EB1 112+1E14 113+1E15 14C+1E50 14D+1E51 1A0+1EDC 1A1+1EDD 1AF+1EEA 1B0+1EEB 391+1FBA
    395+1FC8 397+1FCA 399+1FDA 39F+1FF8 3A5+1FEA 3A9+1FFA 3B1+1F70 3B5+1F72 3B7+1F74 3B9+1F76
    3BF+1F78 3C5+1F7A 3C9+1F7C 3CA+1FD2 3CB+1FE2 415+400 418+40D 435+450 438+45D 1F00+1F02
    1F01+1F03 1F08+1F0A 1F09+1F0B 1F10+1F12 1F11+1F13 1F18+1F1A 1F19+1F1B 1F20+1F22 1F21+1F23
    1F28+1F2A 1F29+1F2B 1F30+1F32 1F31+1F33 1F38+1F3A 1F39+1F3B 1F40+1F42 1F41+1F43 1F48+1F4A
    1F49+1F4B 1F50+1F52 1F51+1F53 1F59+1F5B 1F60+1F62 1F61+1F63 1F68+1F6A 1F69+1F6B 1FBF+1FCD
    1FFE+1FDD @301 41+C1 43+106 45+C9 47+1F4 49+CD 4B+1E30 4C+139 4D+1E3E 4E+143 4F+D3 50+1E54
    52+154 53+15A 55+DA 57+1E82 59+DD 5A+179 61+E1 63+107 65+E9 67+1F5 69+ED 6B+1E31 6C+13A
    6D+1E3F 6E+144 6F+F3 70+1E55 72+155 73+15B 75+FA 77+1E83 79+FD 7A+17A A8+385 C2+1EA4 C5+1FA
    C6+1FC C7+1E08 CA+1EBE CF+1E2E D4+1ED0 D5+1E4C D8+1FE DC+1D7 E2+1EA5 E5+1FB E6+1FD E7+1E09
    EA+1EBF EF+1E2F F4+1ED1 F5+1E4D F8+1FF FC+1D8 102+1EAE 103+1EAF 112+1E16 113+1E17 14C+1E52
    14D+1E53 168+1E78 169+1E79 1A0+1EDA 1A1+1EDB 1AF+1EE8 1B0+1EE9 391+386 395+388 397+389 399+38A
    39F+38C 3A5+38E 3A9+38F 3B1+3AC 3B5+3AD 3B7+3AE 3B9+3AF 3BF+3CC 3C5+3CD 3C9+3CE 3CA+390
    3CB+3B0 3D2+3D3 413+403 41A+40C 433+453 43A+45C 1F00+1F04 1F01+1F05 1F08+1F0C 1F09+1F0D
    1F10+1F14 1F11+1F15 1F18+1F1C 1F19+1F1D 1F20+1F24 1F21+1F25 1F28+1F2C 1F29+1F2D 1F30+1F34
    1F31+1F35 1F38+1F3C 1F39+1F3D 1F40+1F44 1F41+1F45 1F48+1F4C 1F49+1F4D 1F50+1F54 1F51+1F55
    1F59+1F5D 1F60+1F64 1F61+1F65 1F68+1F6C 1F69+1F6D 1FBF+1FCE 1FFE+1FDE @302 41+C2 43+108 45+CA
    47+11C 48+124 49+CE 4A+134 4F+D4 53+15C 55+DB 57+174 59+176 5A+1E90 61+E2 63+109 65+EA 67+11D
    68+125 69+EE 6A+135 6F+F4 73+15D 75+FB 77+175 79+177 7A+1E91 1EA0+1EAC 1EA1+1EAD 1EB8+1EC6
    1EB9+1EC7 1ECC+1ED8 1ECD+1ED9 @303 41+C3 45+1EBC 49+128 4E+D1 4F+D5 55+168 56+1E7C 59+1EF8
    61+E3 65+1EBD 69+129 6E+F1 6F+F5 75+169 76+1E7D 79+1EF9 C2+1EAA CA+1EC4 D4+1ED6 E2+1EAB
    EA+1EC5 F4+1ED7 102+1EB4 103+1EB5 1A0+1EE0 1A1+1EE1 1AF+1EEE 1B0+1EEF @304 41+100 45+112
    47+1E20 49+12A 4F+14C 55+16A 59+232 61+101 65+113 67+1E21 69+12B 6F+14D 75+16B 79+233 C4+1DE
    C6+1E2 D5+22C D6+22A DC+1D5 E4+1DF E6+1E3 F5+22D F6+22B FC+1D6 1EA+1EC 1EB+1ED 226+1E0 227+1E1
    22E+230 22F+231 391+1FB9 399+1FD9 3A5+1FE9 3B1+1FB1 3B9+1FD1 3C5+1FE1 418+4E2 423+4EE 438+4E3
    443+4EF 1E36+1E38 1E37+1E39 1E5A+1E5C 1E5B+1E5D @306 41+102 45+114 47+11E 49+12C 4F+14E 55+16C
    61+103 65+115 67+11F 69+12D 6F+14F 75+16D 228+1E1C 229+1E1D 391+1FB8 399+1FD8 3A5+1FE8
    3B1+1FB0 3B9+1FD0 3C5+1FE0 410+4D0 415+4D6 416+4C1 418+419 423+40E 430+4D1 435+4D7 436+4C2
    438+439 443+45E 1EA0+1EB6 1EA1+1EB7 @307 41+226 42+1E02 43+10A 44+1E0A 45+116 46+1E1E 47+120
    48+1E22 49+130 4D+1E40 4E+1E44 4F+22E 50+1E56 52+1E58 53+1E60 54+1E6A 57+1E86 58+1E8A 59+1E8E
    5A+17B 61+227 62+1E03 63+10B 64+1E0B 65+117 66+1E1F 67+121 68+1E23 6D+1E41 6E+1E45 6F+22F
    70+1E57 72+1E59 73+1E61 74+1E6B 77+1E87 78+1E8B 79+1E8F 7A+17C 15A+1E64 15B+1E65 160+1E66
    161+1E67 17F+1E9B 1E62+1E68 1E63+1E69 105D2+105C9 105DA+105E4 @308 41+C4 45+CB 48+1E26 49+CF
    4F+D6 55+DC 57+1E84 58+1E8C 59+178 61+E4 65+EB 68+1E27 69+EF 6F+F6 74+1E97 75+FC 77+1E85
    78+1E8D 79+FF D5+1E4E F5+1E4F 16A+1E7A 16B+1E7B 399+3AA 3A5+3AB 3B9+3CA 3C5+3CB 3D2+3D4
    406+407 410+4D2 415+401 416+4DC 417+4DE 418+4E4 41E+4E6 423+4F0 427+4F4 42B+4F8 42D+4EC
    430+4D3 435+451 436+4DD 437+4DF 438+4E5 43E+4E7 443+4F1 447+4F5 44B+4F9 44D+4ED 456+457
    4D8+4DA 4D9+4DB 4E8+4EA 4E9+4EB @309 41+1EA2 45+1EBA 49+1EC8 4F+1ECE 55+1EE6 59+1EF6 61+1EA3
    65+1EBB 69+1EC9 6F+1ECF 75+1EE7 79+1EF7 C2+1EA8 CA+1EC2 D4+1ED4 E2+1EA9 EA+1EC3 F4+1ED5
    102+1EB2 103+1EB3 1A0+1EDE 1A1+1EDF 1AF+1EEC 1B0+1EED @30A 41+C5 55+16E 61+E5 75+16F 77+1E98
    79+1E99 @30B 4F+150 55+170 6F+151 75+171 423+4F2 443+4F3 @30C 41+1CD 43+10C 44+10E 45+11A
    47+1E6 48+21E 49+1CF 4B+1E8 4C+13D 4E+147 4F+1D1 52+158 53+160 54+164 55+1D3 5A+17D 61+1CE
    63+10D 64+10F 65+11B 67+1E7 68+21F 69+1D0 6A+1F0 6B+1E9 6C+13E 6E+148 6F+1D2 72+159 73+161
    74+165 75+1D4 7A+17E DC+1D9 FC+1DA 1B7+1EE 292+1EF @30F 41+200 45+204 49+208 4F+20C 52+210
    55+214 61+201 65+205 69+209 6F+20D 72+211 75+215 474+476 475+477 @311 41+202 45+206 49+20A
    4F+20E 52+212 55+216 61+203 65+207 69+20B 6F+20F 72+213 75+217 @313 391+1F08 395+1F18 397+1F28
    399+1F38 39F+1F48 3A9+1F68 3B1+1F00 3B5+1F10 3B7+1F20 3B9+1F30 3BF+1F40 3C1+1FE4 3C5+1F50
    3C9+1F60 @314 391+1F09 395+1F19 397+1F29 399+1F39 39F+1F49 3A1+1FEC 3A5+1F59 3A9+1F69 3B1+1F01
    3B5+1F11 3B7+1F21 3B9+1F31 3BF+1F41 3C1+1FE5 3C5+1F51 3C9+1F61 @31B 4F+1A0 55+1AF 6F+1A1
    75+1B0 @323 41+1EA0 42+1E04 44+1E0C 45+1EB8 48+1E24 49+1ECA 4B+1E32 4C+1E36 4D+1E42 4E+1E46
    4F+1ECC 52+1E5A 53+1E62 54+1E6C 55+1EE4 56+1E7E 57+1E88 59+1EF4 5A+1E92 61+1EA1 62+1E05
    64+1E0D 65+1EB9 68+1E25 69+1ECB 6B+1E33 6C+1E37 6D+1E43 6E+1E47 6F+1ECD 72+1E5B 73+1E63
    74+1E6D 75+1EE5 76+1E7F 77+1E89 79+1EF5 7A+1E93 1A0+1EE2 1A1+1EE3 1AF+1EF0 1B0+1EF1 @324
    55+1E72 75+1E73 @325 41+1E00 61+1E01 @326 53+218 54+21A 73+219 74+21B @327 43+C7 44+1E10
    45+228 47+122 48+1E28 4B+136 4C+13B 4E+145 52+156 53+15E 54+162 63+E7 64+1E11 65+229 67+123
    68+1E29 6B+137 6C+13C 6E+146 72+157 73+15F 74+163 @328 41+104 45+118 49+12E 4F+1EA 55+172
    61+105 65+119 69+12F 6F+1EB 75+173 @32D 44+1E12 45+1E18 4C+1E3C 4E+1E4A 54+1E70 55+1E76
    64+1E13 65+1E19 6C+1E3D 6E+1E4B 74+1E71 75+1E77 @32E 48+1E2A 68+1E2B @330 45+1E1A 49+1E2C
    55+1E74 65+1E1B 69+1E2D 75+1E75 @331 42+1E06 44+1E0E 4B+1E34 4C+1E3A 4E+1E48 52+1E5E 54+1E6E
    5A+1E94 62+1E07 64+1E0F 68+1E96 6B+1E35 6C+1E3B 6E+1E49 72+1E5F 74+1E6F 7A+1E95 @338 3C+226E
    3D+2260 3E+226F 2190+219A 2192+219B 2194+21AE 21D0+21CD 21D2+21CF 21D4+21CE 2203+2204
    2208+2209 220B+220C 2223+2224 2225+2226 223C+2241 2243+2244 2245+2247 2248+2249 224D+226D
    2261+2262 2264+2270 2265+2271 2272+2274 2273+2275 2276+2278 2277+2279 227A+2280 227B+2281
    227C+22E0 227D+22E1 2282+2284 2283+2285 2286+2288 2287+2289 2291+22E2 2292+22E3 22A2+22AC
    22A8+22AD 22A9+22AE 22AB+22AF 22B2+22EA 22B3+22EB 22B4+22EC 22B5+22ED @342 A8+1FC1 3B1+1FB6
    3B7+1FC6 3B9+1FD6 3C5+1FE6 3C9+1FF6 3CA+1FD7 3CB+1FE7 1F00+1F06 1F01+1F07 1F08+1F0E 1F09+1F0F
    1F20+1F26 1F21+1F27 1F28+1F2E 1F29+1F2F 1F30+1F36 1F31+1F37 1F38+1F3E 1F39+1F3F 1F50+1F56
    1F51+1F57 1F59+1F5F 1F60+1F66 1F61+1F67 1F68+1F6E 1F69+1F6F 1FBF+1FCF 1FFE+1FDF @345 391+1FBC
    397+1FCC 3A9+1FFC 3AC+1FB4 3AE+1FC4 3B1+1FB3 3B7+1FC3 3C9+1FF3 3CE+1FF4 1F00+1F80 1F01+1F81
    1F02+1F82 1F03+1F83 1F04+1F84 1F05+1F85 1F06+1F86 1F07+1F87 1F08+1F88 1F09+1F89 1F0A+1F8A
    1F0B+1F8B 1F0C+1F8C 1F0D+1F8D 1F0E+1F8E 1F0F+1F8F 1F20+1F90 1F21+1F91 1F22+1F92 1F23+1F93
    1F24+1F94 1F25+1F95 1F26+1F96 1F27+1F97 1F28+1F98 1F29+1F99 1F2A+1F9A 1F2B+1F9B 1F2C+1F9C
    1F2D+1F9D 1F2E+1F9E 1F2F+1F9F 1F60+1FA0 1F61+1FA1 1F62+1FA2 1F63+1FA3 1F64+1FA4 1F65+1FA5
    1F66+1FA6 1F67+1FA7 1F68+1FA8 1F69+1FA9 1F6A+1FAA 1F6B+1FAB 1F6C+1FAC 1F6D+1FAD 1F6E+1FAE
    1F6F+1FAF 1F70+1FB2 1F74+1FC2 1F7C+1FF2 1FB6+1FB7 1FC6+1FC7 1FF6+1FF7 @653 627+622 @654
    627+623 648+624 64A+626 6C1+6C2 6D2+6D3 6D5+6C0 @655 627+625 @93C 928+929 930+931 933+934 @9BE
    9C7+9CB @9D7 9C7+9CC @B3E B47+B4B @B56 B47+B48 @B57 B47+B4C @BBE BC6+BCA BC7+BCB @BD7 B92+B94
    BC6+BCC @C56 C46+C48 @CC2 CC6+CCA @CD5 CBF+CC0 CC6+CC7 CCA+CCB @CD6 CC6+CC8 @D3E D46+D4A
    D47+D4B @D57 D46+D4C @DCA DD9+DDA DDC+DDD @DCF DD9+DDC @DDF DD9+DDE @102E 1025+1026 @1B35
    1B05+1B06 1B07+1B08 1B09+1B0A 1B0B+1B0C 1B0D+1B0E 1B11+1B12 1B3A+1B3B 1B3C+1B3D 1B3E+1B40
    1B3F+1B41 1B42+1B43 @3099 3046+3094 304B+304C 304D+304E 304F+3050 3051+3052 3053+3054
    3055+3056 3057+3058 3059+305A 305B+305C 305D+305E 305F+3060 3061+3062 3064+3065 3066+3067
    3068+3069 306F+3070 3072+3073 3075+3076 3078+3079 307B+307C 309D+309E 30A6+30F4 30AB+30AC
    30AD+30AE 30AF+30B0 30B1+30B2 30B3+30B4 30B5+30B6 30B7+30B8 30B9+30BA 30BB+30BC 30BD+30BE
    30BF+30C0 30C1+30C2 30C4+30C5 30C6+30C7 30C8+30C9 30CF+30D0 30D2+30D3 30D5+30D6 30D8+30D9
    30DB+30DC 30EF+30F7 30F0+30F8 30F1+30F9 30F2+30FA 30FD+30FE @309A 306F+3071 3072+3074
    3075+3077 3078+307A 307B+307D 30CF+30D1 30D2+30D4 30D5+30D7 30D8+30DA 30DB+30DD @110BA
    11099+1109A 1109B+1109C 110A5+110AB @11127 11131+1112E 11132+1112F @1133E 11347+1134B @11357
    11347+1134C @113B8 113C2+113C7 @113BB 11384+11385 @113C2 1138B+1138E 113C2+113C5 @113C9
    11382+11383 11390+11391 113C2+113C8 @114B0 114B9+114BC @114BA 114B9+114BB @114BD 114B9+114BE
    @115AF 115B8+115BA 115B9+115BB @11930 11935+11938 @1611E 1611E+16121 @1611F 1611E+16123
    16121+16126 16122+16127 16129+16124 @16120 1611E+16125 16121+16128 @16129 1611E+16122 @16D67
    16D63+16D69 16D67+16D68 16D69+16D6A"

/-! The syllables of Hangul are computed: 19 leading, 21 middle and 27 trailing parts, or none. -/

def leadingBase : Nat := 0x1100

def middleBase : Nat := 0x1161

def trailingBase : Nat := 0x11A7

def syllableBase : Nat := 0xAC00

def syllableCount : Nat := 19 * 21 * 28

def isSyllable (n : Nat) : Bool := syllableBase ≤ n && n < syllableBase + syllableCount

/-- A syllable of a leading and a middle part, or of such a syllable and a trailing part. -/
def syllable? (a b : Nat) : Option Nat :=
  if leadingBase ≤ a && a < leadingBase + 19 && middleBase ≤ b && b < middleBase + 21 then
    some (syllableBase + ((a - leadingBase) * 21 + (b - middleBase)) * 28)
  else if isSyllable a && (a - syllableBase) % 28 = 0 && trailingBase < b &&
      b < trailingBase + 28 then
    some (a + (b - trailingBase))
  else none

/-- The parts of a syllable. -/
def syllableParts (n : Nat) : List Nat :=
  let i := n - syllableBase
  [leadingBase + i / (21 * 28), middleBase + i / 28 % 21] ++
    (if i % 28 = 0 then [] else [trailingBase + i % 28])

/-- The character that two others make up. -/
def composed? (a b : Char) : Option Char :=
  match syllable? a.toNat b.toNat with
  | some n => some (Char.ofNat n)
  | none =>
    (compositions.find? fun (x, y, _) => x = a.toNat && y = b.toNat).map fun (_, _, z) =>
      Char.ofNat z

/-- The two characters that make up a third one. -/
def parts? (n : Nat) : Option (Nat × Nat) :=
  (compositions.find? fun (_, _, z) => z = n).map fun (x, y, _) => (x, y)

/-- How often a character can be taken apart. -/
def maxDepth : Nat := 4

/-- A character in its last parts; the first of two parts may have parts again. -/
def decomposed : Nat → Nat → List Nat
  | 0, n => [n]
  | depth + 1, n =>
    if isSyllable n then syllableParts n
    else
      match parts? n with
      | some (a, b) => decomposed depth a ++ [b]
      | none => [n]

/-! ### The composed form -/

/-- Puts a mark behind all marks in front of which it does not belong. -/
def insertMark (c : Char) : List Char → List Char
  | [] => [c]
  | d :: s =>
    if 0 < combiningClass d && combiningClass d < combiningClass c then d :: insertMark c s
    else c :: d :: s

/-- A text in its last parts, with marks in the order of their classes. -/
def decompose (s : List Char) : List Char :=
  let parts := s.flatMap fun c => (decomposed maxDepth c.toNat).map Char.ofNat
  parts.foldr insertMark []

/-- A composition under way: what is done, the last letter, and the marks that stay behind it. -/
structure Composer where
  done : List Char
  letter : Option Char
  marks : List Char

namespace Composer

/-- Everything so far. -/
def text (t : Composer) : List Char := t.done ++ t.letter.toList ++ t.marks

/-- A mark of the same or a higher class, or another letter, stands between. -/
def isBlocked (t : Composer) (c : Char) : Bool :=
  t.marks.getLast?.any fun m => combiningClass c ≤ combiningClass m

/-- Starts over behind another character that is no mark. -/
def begin (t : Composer) (c : Char) : Composer := ⟨t.text, some c, []⟩

/-- Adds a character, which may become part of the last letter. -/
def add (t : Composer) (c : Char) : Composer :=
  match if t.isBlocked c then none else t.letter.bind (composed? · c) with
  | some whole => { t with letter := some whole }
  | none =>
    if combiningClass c = 0 then t.begin c else { t with marks := t.marks ++ [c] }

end Composer

/-- The composed form of a text. -/
def compose (s : List Char) : List Char :=
  ((decompose s).foldl Composer.add ⟨[], none, []⟩).text

end MetricAgent.Text
