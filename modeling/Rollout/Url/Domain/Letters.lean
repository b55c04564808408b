import Rollout.Text.Composition
/-!
# The letters of domains

Many characters are only another way to write the letters of a domain: capitals, ligatures, wide
and small forms. A domain is compared and sent in the letters that its characters stand for. Some
characters stand for nothing, and most stand in no domain at all.
-/

namespace Rollout.Url.Domain

/-- The characters outside ASCII that a domain may be written with. -/
def knownRanges : List (Nat × Nat) := Text.ranges "
  A0-377 37A-37F 384-38A 38C-38C 38E-3A1 3A3-52F 531-556 559-58A 58D-58F 591-5C7 5D0-5EA 5EF-5F4
  606-61B 61D-6DC 6DE-70D 710-74A 74D-7B1 7C0-7FA 7FD-82D 830-83E 840-85B 85E-85E 860-86A 870-88F
  897-8E1 8E3-983 985-98C 98F-990 993-9A8 9AA-9B0 9B2-9B2 9B6-9B9 9BC-9C4 9C7-9C8 9CB-9CE 9D7-9D7
  9DC-9DD 9DF-9E3 9E6-9FE A01-A03 A05-A0A A0F-A10 A13-A28 A2A-A30 A32-A33 A35-A36 A38-A39 A3C-A3C
  A3E-A42 A47-A48 A4B-A4D A51-A51 A59-A5C A5E-A5E A66-A76 A81-A83 A85-A8D A8F-A91 A93-AA8 AAA-AB0
  AB2-AB3 AB5-AB9 ABC-AC5 AC7-AC9 ACB-ACD AD0-AD0 AE0-AE3 AE6-AF1 AF9-AFF B01-B03 B05-B0C B0F-B10
  B13-B28 B2A-B30 B32-B33 B35-B39 B3C-B44 B47-B48 B4B-B4D B55-B57 B5C-B5D B5F-B63 B66-B77 B82-B83
  B85-B8A B8E-B90 B92-B95 B99-B9A B9C-B9C B9E-B9F BA3-BA4 BA8-BAA BAE-BB9 BBE-BC2 BC6-BC8 BCA-BCD
  BD0-BD0 BD7-BD7 BE6-BFA C00-C0C C0E-C10 C12-C28 C2A-C39 C3C-C44 C46-C48 C4A-C4D C55-C56 C58-C5A
  C5C-C5D C60-C63 C66-C6F C77-C8C C8E-C90 C92-CA8 CAA-CB3 CB5-CB9 CBC-CC4 CC6-CC8 CCA-CCD CD5-CD6
  CDC-CDE CE0-CE3 CE6-CEF CF1-CF3 D00-D0C D0E-D10 D12-D44 D46-D48 D4A-D4F D54-D63 D66-D7F D81-D83
  D85-D96 D9A-DB1 DB3-DBB DBD-DBD DC0-DC6 DCA-DCA DCF-DD4 DD6-DD6 DD8-DDF DE6-DEF DF2-DF4 E01-E3A
  E3F-E5B E81-E82 E84-E84 E86-E8A E8C-EA3 EA5-EA5 EA7-EBD EC0-EC4 EC6-EC6 EC8-ECE ED0-ED9 EDC-EDF
  F00-F47 F49-F6C F71-F97 F99-FBC FBE-FCC FCE-FDA 1000-10C5 10C7-10C7 10CD-10CD 10D0-1248
  124A-124D 1250-1256 1258-1258 125A-125D 1260-1288 128A-128D 1290-12B0 12B2-12B5 12B8-12BE
  12C0-12C0 12C2-12C5 12C8-12D6 12D8-1310 1312-1315 1318-135A 135D-137C 1380-1399 13A0-13F5
  13F8-13FD 1400-167F 1681-169C 16A0-16F8 1700-1715 171F-1736 1740-1753 1760-176C 176E-1770
  1772-1773 1780-17DD 17E0-17E9 17F0-17F9 1800-1819 1820-1878 1880-18AA 18B0-18F5 1900-191E
  1920-192B 1930-193B 1940-1940 1944-196D 1970-1974 1980-19AB 19B0-19C9 19D0-19DA 19DE-1A1B
  1A1E-1A5E 1A60-1A7C 1A7F-1A89 1A90-1A99 1AA0-1AAD 1AB0-1ADD 1AE0-1AEB 1B00-1B4C 1B4E-1BF3
  1BFC-1C37 1C3B-1C49 1C4D-1C8A 1C90-1CBA 1CBD-1CC7 1CD0-1CFA 1D00-1F15 1F18-1F1D 1F20-1F45
  1F48-1F4D 1F50-1F57 1F59-1F59 1F5B-1F5B 1F5D-1F5D 1F5F-1F7D 1F80-1FB4 1FB6-1FC4 1FC6-1FD3
  1FD6-1FDB 1FDD-1FEF 1FF2-1FF4 1FF6-1FFE 2000-200D 2010-2023 2027-2027 202F-2064 206A-2071
  2074-208E 2090-209C 20A0-20C1 20D0-20F0 2100-218B 2190-2429 2440-244A 2460-2487 249C-2B73
  2B76-2CF3 2CF9-2D25 2D27-2D27 2D2D-2D2D 2D30-2D67 2D6F-2D70 2D7F-2D96 2DA0-2DA6 2DA8-2DAE
  2DB0-2DB6 2DB8-2DBE 2DC0-2DC6 2DC8-2DCE 2DD0-2DD6 2DD8-2DDE 2DE0-2E5D 2E80-2E99 2E9B-2EF3
  2F00-2FD5 3000-303F 3041-3096 3099-30FF 3105-312F 3131-318E 3190-31E5 31F0-321E 3220-33C1
  33C3-33C6 33C8-33D7 33D9-A48C A490-A4C6 A4D0-A62B A640-A6F7 A700-A7DC A7F1-A82C A830-A839
  A840-A877 A880-A8C5 A8CE-A8D9 A8E0-A953 A95F-A97C A980-A9CD A9CF-A9D9 A9DE-A9FE AA00-AA36
  AA40-AA4D AA50-AA59 AA5C-AAC2 AADB-AAF6 AB01-AB06 AB09-AB0E AB11-AB16 AB20-AB26 AB28-AB2E
  AB30-AB6B AB70-ABED ABF0-ABF9 AC00-D7A3 D7B0-D7C6 D7CB-D7FB F900-FA6D FA70-FAD9 FB00-FB06
  FB13-FB17 FB1D-FB36 FB38-FB3C FB3E-FB3E FB40-FB41 FB43-FB44 FB46-FDCF FDF0-FE11 FE13-FE18
  FE20-FE2F FE31-FE51 FE54-FE66 FE68-FE6B FE70-FE74 FE76-FEFC FEFF-FEFF FF01-FFBE FFC2-FFC7
  FFCA-FFCF FFD2-FFD7 FFDA-FFDC FFE0-FFE6 FFE8-FFEE 10000-1000B 1000D-10026 10028-1003A
  1003C-1003D 1003F-1004D 10050-1005D 10080-100FA 10100-10102 10107-10133 10137-1018E 10190-1019C
  101A0-101A0 101D0-101FD 10280-1029C 102A0-102D0 102E0-102FB 10300-10323 1032D-1034A 10350-1037A
  10380-1039D 1039F-103C3 103C8-103D5 10400-1049D 104A0-104A9 104B0-104D3 104D8-104FB 10500-10527
  10530-10563 1056F-1057A 1057C-1058A 1058C-10592 10594-10595 10597-105A1 105A3-105B1 105B3-105B9
  105BB-105BC 105C0-105F3 10600-10736 10740-10755 10760-10767 10780-10785 10787-107B0 107B2-107BA
  10800-10805 10808-10808 1080A-10835 10837-10838 1083C-1083C 1083F-10855 10857-1089E 108A7-108AF
  108E0-108F2 108F4-108F5 108FB-1091B 1091F-10939 1093F-10959 10980-109B7 109BC-109CF 109D2-10A03
  10A05-10A06 10A0C-10A13 10A15-10A17 10A19-10A35 10A38-10A3A 10A3F-10A48 10A50-10A58 10A60-10A9F
  10AC0-10AE6 10AEB-10AF6 10B00-10B35 10B39-10B55 10B58-10B72 10B78-10B91 10B99-10B9C 10BA9-10BAF
  10C00-10C48 10C80-10CB2 10CC0-10CF2 10CFA-10D27 10D30-10D39 10D40-10D65 10D69-10D85 10D8E-10D8F
  10E60-10E7E 10E80-10EA9 10EAB-10EAD 10EB0-10EB1 10EC2-10EC7 10ED0-10ED8 10EFA-10F27 10F30-10F59
  10F70-10F89 10FB0-10FCB 10FE0-10FF6 11000-1104D 11052-11075 1107F-110BC 110BE-110C2 110D0-110E8
  110F0-110F9 11100-11134 11136-11147 11150-11176 11180-111DF 111E1-111F4 11200-11211 11213-11241
  11280-11286 11288-11288 1128A-1128D 1128F-1129D 1129F-112A9 112B0-112EA 112F0-112F9 11300-11303
  11305-1130C 1130F-11310 11313-11328 1132A-11330 11332-11333 11335-11339 1133B-11344 11347-11348
  1134B-1134D 11350-11350 11357-11357 1135D-11363 11366-1136C 11370-11374 11380-11389 1138B-1138B
  1138E-1138E 11390-113B5 113B7-113C0 113C2-113C2 113C5-113C5 113C7-113CA 113CC-113D5 113D7-113D8
  113E1-113E2 11400-1145B 1145D-11461 11480-114C7 114D0-114D9 11580-115B5 115B8-115DD 11600-11644
  11650-11659 11660-1166C 11680-116B9 116C0-116C9 116D0-116E3 11700-1171A 1171D-1172B 11730-11746
  11800-1183B 118A0-118F2 118FF-11906 11909-11909 1190C-11913 11915-11916 11918-11935 11937-11938
  1193B-11946 11950-11959 119A0-119A7 119AA-119D7 119DA-119E4 11A00-11A47 11A50-11AA2 11AB0-11AF8
  11B00-11B09 11B60-11B67 11BC0-11BE1 11BF0-11BF9 11C00-11C08 11C0A-11C36 11C38-11C45 11C50-11C6C
  11C70-11C8F 11C92-11CA7 11CA9-11CB6 11D00-11D06 11D08-11D09 11D0B-11D36 11D3A-11D3A 11D3C-11D3D
  11D3F-11D47 11D50-11D59 11D60-11D65 11D67-11D68 11D6A-11D8E 11D90-11D91 11D93-11D98 11DA0-11DA9
  11DB0-11DDB 11DE0-11DE9 11EE0-11EF8 11F00-11F10 11F12-11F3A 11F3E-11F5A 11FB0-11FB0 11FC0-11FF1
  11FFF-12399 12400-1246E 12470-12474 12480-12543 12F90-12FF2 13000-1342F 13440-13455 13460-143FA
  14400-14646 16100-16139 16800-16A38 16A40-16A5E 16A60-16A69 16A6E-16ABE 16AC0-16AC9 16AD0-16AED
  16AF0-16AF5 16B00-16B45 16B50-16B59 16B5B-16B61 16B63-16B77 16B7D-16B8F 16D40-16D79 16E40-16E9A
  16EA0-16EB8 16EBB-16ED3 16F00-16F4A 16F4F-16F87 16F8F-16F9F 16FE0-16FE4 16FF0-16FF6 17000-18CD5
  18CFF-18D1E 18D80-18DF2 1AFF0-1AFF3 1AFF5-1AFFB 1AFFD-1AFFE 1B000-1B122 1B132-1B132 1B150-1B152
  1B155-1B155 1B164-1B167 1B170-1B2FB 1BC00-1BC6A 1BC70-1BC7C 1BC80-1BC88 1BC90-1BC99 1BC9C-1BCA3
  1CC00-1CCFC 1CD00-1CEB3 1CEBA-1CED0 1CEE0-1CEF0 1CF00-1CF2D 1CF30-1CF46 1CF50-1CFC3 1D000-1D0F5
  1D100-1D126 1D129-1D1EA 1D200-1D245 1D2C0-1D2D3 1D2E0-1D2F3 1D300-1D356 1D360-1D378 1D400-1D454
  1D456-1D49C 1D49E-1D49F 1D4A2-1D4A2 1D4A5-1D4A6 1D4A9-1D4AC 1D4AE-1D4B9 1D4BB-1D4BB 1D4BD-1D4C3
  1D4C5-1D505 1D507-1D50A 1D50D-1D514 1D516-1D51C 1D51E-1D539 1D53B-1D53E 1D540-1D544 1D546-1D546
  1D54A-1D550 1D552-1D6A5 1D6A8-1D7CB 1D7CE-1DA8B 1DA9B-1DA9F 1DAA1-1DAAF 1DF00-1DF1E 1DF25-1DF2A
  1E000-1E006 1E008-1E018 1E01B-1E021 1E023-1E024 1E026-1E02A 1E030-1E06D 1E08F-1E08F 1E100-1E12C
  1E130-1E13D 1E140-1E149 1E14E-1E14F 1E290-1E2AE 1E2C0-1E2F9 1E2FF-1E2FF 1E4D0-1E4F9 1E5D0-1E5FA
  1E5FF-1E5FF 1E6C0-1E6DE 1E6E0-1E6F5 1E6FE-1E6FF 1E7E0-1E7E6 1E7E8-1E7EB 1E7ED-1E7EE 1E7F0-1E7FE
  1E800-1E8C4 1E8C7-1E8D6 1E900-1E94B 1E950-1E959 1E95E-1E95F 1EC71-1ECB4 1ED01-1ED3D 1EE00-1EE03
  1EE05-1EE1F 1EE21-1EE22 1EE24-1EE24 1EE27-1EE27 1EE29-1EE32 1EE34-1EE37 1EE39-1EE39 1EE3B-1EE3B
  1EE42-1EE42 1EE47-1EE47 1EE49-1EE49 1EE4B-1EE4B 1EE4D-1EE4F 1EE51-1EE52 1EE54-1EE54 1EE57-1EE57
  1EE59-1EE59 1EE5B-1EE5B 1EE5D-1EE5D 1EE5F-1EE5F 1EE61-1EE62 1EE64-1EE64 1EE67-1EE6A 1EE6C-1EE72
  1EE74-1EE77 1EE79-1EE7C 1EE7E-1EE7E 1EE80-1EE89 1EE8B-1EE9B 1EEA1-1EEA3 1EEA5-1EEA9 1EEAB-1EEBB
  1EEF0-1EEF1 1F000-1F02B 1F030-1F093 1F0A0-1F0AE 1F0B1-1F0BF 1F0C1-1F0CF 1F0D1-1F0F5 1F101-1F1AD
  1F1E6-1F202 1F210-1F23B 1F240-1F248 1F250-1F251 1F260-1F265 1F300-1F6D8 1F6DC-1F6EC 1F6F0-1F6FC
  1F700-1F7D9 1F7E0-1F7EB 1F7F0-1F7F0 1F800-1F80B 1F810-1F847 1F850-1F859 1F860-1F887 1F890-1F8AD
  1F8B0-1F8BB 1F8C0-1F8C1 1F8D0-1F8D8 1F900-1FA57 1FA60-1FA6D 1FA70-1FA7C 1FA80-1FA8A 1FA8E-1FAC6
  1FAC8-1FAC8 1FACD-1FADC 1FADF-1FAEA 1FAEF-1FAF8 1FB00-1FB92 1FB94-1FBFA 20000-2A6DF 2A700-2B81D
  2B820-2CEAD 2CEB0-2EBE0 2EBF0-2EE5D 2F800-2FA1D 30000-3134A 31350-33479 E0100-E01EF"

/-- Characters that stand for nothing. -/
def ignoredRanges : List (Nat × Nat) := Text.ranges "
  AD-AD 34F-34F 115F-1160 17B4-17B5 180B-180F 200B-200B 2060-2064 206A-206F 3164-3164 FE00-FE0F
  FEFF-FEFF FFA0-FFA0 1BCA0-1BCA3 1D173-1D17A E0100-E01EF"

/-- Characters that stand for one letter, as runs. -/
def runRows : List (List Nat) := Text.rows "
  A0-A0/1=20 AA-AA/1=61 B2-B3/1=32 B5-B5/1=3BC B9-B9/1=31 BA-BA/1=6F C0-D6/1=E0 D8-DE/1=F8
  100-12E/2=101 134-136/2=135 139-13D/2=13A 141-147/2=142 14A-176/2=14B 178-178/1=FF 179-17D/2=17A
  17F-17F/1=73 181-181/1=253 182-184/2=183 186-186/1=254 187-187/1=188 189-18A/1=256 18B-18B/1=18C
  18E-18E/1=1DD 18F-18F/1=259 190-190/1=25B 191-191/1=192 193-193/1=260 194-194/1=263
  196-196/1=269 197-197/1=268 198-198/1=199 19C-19C/1=26F 19D-19D/1=272 19F-19F/1=275
  1A0-1A4/2=1A1 1A6-1A6/1=280 1A7-1A7/1=1A8 1A9-1A9/1=283 1AC-1AC/1=1AD 1AE-1AE/1=288
  1AF-1AF/1=1B0 1B1-1B2/1=28A 1B3-1B5/2=1B4 1B7-1B7/1=292 1B8-1B8/1=1B9 1BC-1BC/1=1BD
  1CD-1DB/2=1CE 1DE-1EE/2=1DF 1F4-1F4/1=1F5 1F6-1F6/1=195 1F7-1F7/1=1BF 1F8-21E/2=1F9
  220-220/1=19E 222-232/2=223 23A-23A/1=2C65 23B-23B/1=23C 23D-23D/1=19A 23E-23E/1=2C66
  241-241/1=242 243-243/1=180 244-244/1=289 245-245/1=28C 246-24E/2=247 2B0-2B2/2=68 2B1-2B1/1=266
  2B3-2B3/1=72 2B4-2B4/1=279 2B5-2B5/1=27B 2B6-2B6/1=281 2B7-2B7/1=77 2B8-2B8/1=79 2E0-2E0/1=263
  2E1-2E1/1=6C 2E2-2E2/1=73 2E3-2E3/1=78 2E4-2E4/1=295 340-341/1=300 343-343/1=313 345-345/1=3B9
  370-372/2=371 374-374/1=2B9 376-376/1=377 37E-37E/1=3B 37F-37F/1=3F3 386-386/1=3AC 387-387/1=B7
  388-38A/1=3AD 38C-38C/1=3CC 38E-38F/1=3CD 391-3A1/1=3B1 3A3-3AB/1=3C3 3CF-3CF/1=3D7
  3D0-3D0/1=3B2 3D1-3D1/1=3B8 3D2-3D2/1=3C5 3D3-3D3/1=3CD 3D4-3D4/1=3CB 3D5-3D5/1=3C6
  3D6-3D6/1=3C0 3D8-3EE/2=3D9 3F0-3F0/1=3BA 3F1-3F1/1=3C1 3F2-3F2/1=3C3 3F4-3F4/1=3B8
  3F5-3F5/1=3B5 3F7-3F7/1=3F8 3F9-3F9/1=3C3 3FA-3FA/1=3FB 3FD-3FF/1=37B 400-40F/1=450
  410-42F/1=430 460-480/2=461 48A-4BE/2=48B 4C0-4C0/1=4CF 4C1-4CD/2=4C2 4D0-52E/2=4D1
  531-556/1=561 F0C-F0C/1=F0B 10A0-10C5/1=2D00 10C7-10C7/1=2D27 10CD-10CD/1=2D2D 10FC-10FC/1=10DC
  13F8-13FD/1=13F0 1C80-1C80/1=432 1C81-1C81/1=434 1C82-1C82/1=43E 1C83-1C84/1=441 1C85-1C85/1=442
  1C86-1C86/1=44A 1C87-1C87/1=463 1C88-1C88/1=A64B 1C89-1C89/1=1C8A 1C90-1CBA/1=10D0
  1CBD-1CBF/1=10FD 1D2C-1D2C/1=61 1D2D-1D2D/1=E6 1D2E-1D30/2=62 1D31-1D39/2=65 1D32-1D32/1=1DD
  1D34-1D3A/2=68 1D3C-1D3C/1=6F 1D3D-1D3D/1=223 1D3E-1D3E/1=70 1D3F-1D3F/1=72 1D40-1D41/1=74
  1D42-1D42/1=77 1D43-1D43/1=61 1D44-1D45/1=250 1D46-1D46/1=1D02 1D47-1D47/1=62 1D48-1D49/1=64
  1D4A-1D4A/1=259 1D4B-1D4C/1=25B 1D4D-1D4D/1=67 1D4F-1D4F/1=6B 1D50-1D52/2=6D 1D51-1D51/1=14B
  1D53-1D53/1=254 1D54-1D55/1=1D16 1D56-1D56/1=70 1D57-1D58/1=74 1D59-1D59/1=1D1D 1D5A-1D5A/1=26F
  1D5B-1D5B/1=76 1D5C-1D5C/1=1D25 1D5D-1D5F/1=3B2 1D60-1D61/1=3C6 1D62-1D62/1=69 1D63-1D63/1=72
  1D64-1D65/1=75 1D66-1D67/1=3B2 1D68-1D68/1=3C1 1D69-1D6A/1=3C6 1D78-1D78/1=43D 1D9B-1D9B/1=252
  1D9C-1D9C/1=63 1D9D-1D9D/1=255 1D9E-1D9E/1=F0 1D9F-1D9F/1=25C 1DA0-1DA0/1=66 1DA1-1DA1/1=25F
  1DA2-1DA2/1=261 1DA3-1DA3/1=265 1DA4-1DA6/1=268 1DA7-1DA7/1=1D7B 1DA8-1DA8/1=29D 1DA9-1DA9/1=26D
  1DAA-1DAA/1=1D85 1DAB-1DAB/1=29F 1DAC-1DAC/1=271 1DAD-1DAD/1=270 1DAE-1DB1/1=272 1DB2-1DB2/1=278
  1DB3-1DB4/1=282 1DB5-1DB5/1=1AB 1DB6-1DB7/1=289 1DB8-1DB8/1=1D1C 1DB9-1DBA/1=28B 1DBB-1DBB/1=7A
  1DBC-1DBE/1=290 1DBF-1DBF/1=3B8 1E00-1E94/2=1E01 1E9B-1E9B/1=1E61 1E9E-1E9E/1=DF
  1EA0-1EFE/2=1EA1 1F08-1F0F/1=1F00 1F18-1F1D/1=1F10 1F28-1F2F/1=1F20 1F38-1F3F/1=1F30
  1F48-1F4D/1=1F40 1F59-1F5F/2=1F51 1F68-1F6F/1=1F60 1F71-1F71/1=3AC 1F73-1F73/1=3AD
  1F75-1F75/1=3AE 1F77-1F77/1=3AF 1F79-1F79/1=3CC 1F7B-1F7B/1=3CD 1F7D-1F7D/1=3CE 1FB8-1FB9/1=1FB0
  1FBA-1FBA/1=1F70 1FBB-1FBB/1=3AC 1FBE-1FBE/1=3B9 1FC8-1FCA/2=1F72 1FC9-1FC9/1=3AD
  1FCB-1FCB/1=3AE 1FD3-1FD3/1=390 1FD8-1FD9/1=1FD0 1FDA-1FDA/1=1F76 1FDB-1FDB/1=3AF
  1FE3-1FE3/1=3B0 1FE8-1FE9/1=1FE0 1FEA-1FEA/1=1F7A 1FEB-1FEB/1=3CD 1FEC-1FEC/1=1FE5
  1FEF-1FEF/1=60 1FF8-1FF8/1=1F78 1FF9-1FFB/2=3CC 1FFA-1FFA/1=1F7C 2000-2000/1=20 2001-2001/1=20
  2002-2002/1=20 2003-2003/1=20 2004-2004/1=20 2005-2005/1=20 2006-2006/1=20 2007-2007/1=20
  2008-2008/1=20 2009-2009/1=20 200A-200A/1=20 2011-2011/1=2010 202F-202F/1=20 205F-205F/1=20
  2070-2070/1=30 2071-2071/1=69 2074-2079/1=34 207A-207A/1=2B 207B-207B/1=2212 207C-207C/1=3D
  207D-207E/1=28 207F-207F/1=6E 2080-2089/1=30 208A-208A/1=2B 208B-208B/1=2212 208C-208C/1=3D
  208D-208E/1=28 2090-2090/1=61 2091-2091/1=65 2092-2092/1=6F 2093-2093/1=78 2094-2094/1=259
  2095-2095/1=68 2096-2099/1=6B 209A-209A/1=70 209B-209C/1=73 2102-2102/1=63 2107-2107/1=25B
  210A-210B/1=67 210C-210C/1=68 210D-210D/1=68 210E-210E/1=68 210F-210F/1=127 2110-2110/1=69
  2111-2111/1=69 2112-2112/1=6C 2113-2115/2=6C 2119-211B/1=70 211C-211C/1=72 211D-211D/1=72
  2124-2124/1=7A 2126-2126/1=3C9 2128-2128/1=7A 212A-212A/1=6B 212B-212B/1=E5 212C-212D/1=62
  212F-212F/1=65 2130-2131/1=65 2132-2132/1=214E 2133-2133/1=6D 2134-2134/1=6F 2135-2138/1=5D0
  2139-2139/1=69 213C-213C/1=3C0 213D-213D/1=3B3 213E-213E/1=3B3 213F-213F/1=3C0 2140-2140/1=2211
  2145-2145/1=64 2146-2147/1=64 2148-2149/1=69 2160-2160/1=69 2164-2164/1=76 2169-2169/1=78
  216C-216C/1=6C 216D-216E/1=63 216F-216F/1=6D 2170-2170/1=69 2174-2174/1=76 2179-2179/1=78
  217C-217C/1=6C 217D-217E/1=63 217F-217F/1=6D 2183-2183/1=2184 2329-232A/1=3008 2460-2468/1=31
  24B6-24CF/1=61 24D0-24E9/1=61 24EA-24EA/1=30 2C00-2C2F/1=2C30 2C60-2C60/1=2C61 2C62-2C62/1=26B
  2C63-2C63/1=1D7D 2C64-2C64/1=27D 2C67-2C6B/2=2C68 2C6D-2C6D/1=251 2C6E-2C6E/1=271
  2C6F-2C6F/1=250 2C70-2C70/1=252 2C72-2C72/1=2C73 2C75-2C75/1=2C76 2C7C-2C7C/1=6A 2C7D-2C7D/1=76
  2C7E-2C7F/1=23F 2C80-2CE2/2=2C81 2CEB-2CED/2=2CEC 2CF2-2CF2/1=2CF3 2D6F-2D6F/1=2D61
  2E9F-2E9F/1=6BCD 2EF3-2EF3/1=9F9F 2F00-2F00/1=4E00 2F01-2F01/1=4E28 2F02-2F02/1=4E36
  2F03-2F03/1=4E3F 2F04-2F04/1=4E59 2F05-2F05/1=4E85 2F06-2F06/1=4E8C 2F07-2F07/1=4EA0
  2F08-2F08/1=4EBA 2F09-2F09/1=513F 2F0A-2F0A/1=5165 2F0B-2F0B/1=516B 2F0C-2F0C/1=5182
  2F0D-2F0D/1=5196 2F0E-2F0E/1=51AB 2F0F-2F0F/1=51E0 2F10-2F10/1=51F5 2F11-2F11/1=5200
  2F12-2F12/1=529B 2F13-2F13/1=52F9 2F14-2F14/1=5315 2F15-2F15/1=531A 2F16-2F16/1=5338
  2F17-2F17/1=5341 2F18-2F18/1=535C 2F19-2F19/1=5369 2F1A-2F1A/1=5382 2F1B-2F1B/1=53B6
  2F1C-2F1C/1=53C8 2F1D-2F1D/1=53E3 2F1E-2F1E/1=56D7 2F1F-2F1F/1=571F 2F20-2F20/1=58EB
  2F21-2F21/1=5902 2F22-2F22/1=590A 2F23-2F23/1=5915 2F24-2F24/1=5927 2F25-2F25/1=5973
  2F26-2F26/1=5B50 2F27-2F27/1=5B80 2F28-2F28/1=5BF8 2F29-2F29/1=5C0F 2F2A-2F2A/1=5C22
  2F2B-2F2B/1=5C38 2F2C-2F2C/1=5C6E 2F2D-2F2D/1=5C71 2F2E-2F2E/1=5DDB 2F2F-2F2F/1=5DE5
  2F30-2F30/1=5DF1 2F31-2F31/1=5DFE 2F32-2F32/1=5E72 2F33-2F33/1=5E7A 2F34-2F34/1=5E7F
  2F35-2F35/1=5EF4 2F36-2F36/1=5EFE 2F37-2F37/1=5F0B 2F38-2F38/1=5F13 2F39-2F39/1=5F50
  2F3A-2F3A/1=5F61 2F3B-2F3B/1=5F73 2F3C-2F3C/1=5FC3 2F3D-2F3D/1=6208 2F3E-2F3E/1=6236
  2F3F-2F3F/1=624B 2F40-2F40/1=652F 2F41-2F41/1=6534 2F42-2F42/1=6587 2F43-2F43/1=6597
  2F44-2F44/1=65A4 2F45-2F45/1=65B9 2F46-2F46/1=65E0 2F47-2F47/1=65E5 2F48-2F48/1=66F0
  2F49-2F49/1=6708 2F4A-2F4A/1=6728 2F4B-2F4B/1=6B20 2F4C-2F4C/1=6B62 2F4D-2F4D/1=6B79
  2F4E-2F4E/1=6BB3 2F4F-2F4F/1=6BCB 2F50-2F50/1=6BD4 2F51-2F51/1=6BDB 2F52-2F52/1=6C0F
  2F53-2F53/1=6C14 2F54-2F54/1=6C34 2F55-2F55/1=706B 2F56-2F56/1=722A 2F57-2F57/1=7236
  2F58-2F58/1=723B 2F59-2F59/1=723F 2F5A-2F5A/1=7247 2F5B-2F5B/1=7259 2F5C-2F5C/1=725B
  2F5D-2F5D/1=72AC 2F5E-2F5E/1=7384 2F5F-2F5F/1=7389 2F60-2F60/1=74DC 2F61-2F61/1=74E6
  2F62-2F62/1=7518 2F63-2F63/1=751F 2F64-2F64/1=7528 2F65-2F65/1=7530 2F66-2F66/1=758B
  2F67-2F67/1=7592 2F68-2F68/1=7676 2F69-2F69/1=767D 2F6A-2F6A/1=76AE 2F6B-2F6B/1=76BF
  2F6C-2F6C/1=76EE 2F6D-2F6D/1=77DB 2F6E-2F6E/1=77E2 2F6F-2F6F/1=77F3 2F70-2F70/1=793A
  2F71-2F71/1=79B8 2F72-2F72/1=79BE 2F73-2F73/1=7A74 2F74-2F74/1=7ACB 2F75-2F75/1=7AF9
  2F76-2F76/1=7C73 2F77-2F77/1=7CF8 2F78-2F78/1=7F36 2F79-2F79/1=7F51 2F7A-2F7A/1=7F8A
  2F7B-2F7B/1=7FBD 2F7C-2F7C/1=8001 2F7D-2F7D/1=800C 2F7E-2F7E/1=8012 2F7F-2F7F/1=8033
  2F80-2F80/1=807F 2F81-2F81/1=8089 2F82-2F82/1=81E3 2F83-2F83/1=81EA 2F84-2F84/1=81F3
  2F85-2F85/1=81FC 2F86-2F86/1=820C 2F87-2F87/1=821B 2F88-2F88/1=821F 2F89-2F89/1=826E
  2F8A-2F8A/1=8272 2F8B-2F8B/1=8278 2F8C-2F8C/1=864D 2F8D-2F8D/1=866B 2F8E-2F8E/1=8840
  2F8F-2F8F/1=884C 2F90-2F90/1=8863 2F91-2F91/1=897E 2F92-2F92/1=898B 2F93-2F93/1=89D2
  2F94-2F94/1=8A00 2F95-2F95/1=8C37 2F96-2F96/1=8C46 2F97-2F97/1=8C55 2F98-2F98/1=8C78
  2F99-2F99/1=8C9D 2F9A-2F9A/1=8D64 2F9B-2F9B/1=8D70 2F9C-2F9C/1=8DB3 2F9D-2F9D/1=8EAB
  2F9E-2F9E/1=8ECA 2F9F-2F9F/1=8F9B 2FA0-2FA0/1=8FB0 2FA1-2FA1/1=8FB5 2FA2-2FA2/1=9091
  2FA3-2FA3/1=9149 2FA4-2FA4/1=91C6 2FA5-2FA5/1=91CC 2FA6-2FA6/1=91D1 2FA7-2FA7/1=9577
  2FA8-2FA8/1=9580 2FA9-2FA9/1=961C 2FAA-2FAA/1=96B6 2FAB-2FAB/1=96B9 2FAC-2FAC/1=96E8
  2FAD-2FAD/1=9751 2FAE-2FAE/1=975E 2FAF-2FAF/1=9762 2FB0-2FB0/1=9769 2FB1-2FB1/1=97CB
  2FB2-2FB2/1=97ED 2FB3-2FB3/1=97F3 2FB4-2FB4/1=9801 2FB5-2FB5/1=98A8 2FB6-2FB6/1=98DB
  2FB7-2FB7/1=98DF 2FB8-2FB8/1=9996 2FB9-2FB9/1=9999 2FBA-2FBA/1=99AC 2FBB-2FBB/1=9AA8
  2FBC-2FBC/1=9AD8 2FBD-2FBD/1=9ADF 2FBE-2FBE/1=9B25 2FBF-2FBF/1=9B2F 2FC0-2FC0/1=9B32
  2FC1-2FC1/1=9B3C 2FC2-2FC2/1=9B5A 2FC3-2FC3/1=9CE5 2FC4-2FC4/1=9E75 2FC5-2FC5/1=9E7F
  2FC6-2FC6/1=9EA5 2FC7-2FC7/1=9EBB 2FC8-2FC8/1=9EC3 2FC9-2FC9/1=9ECD 2FCA-2FCA/1=9ED1
  2FCB-2FCB/1=9EF9 2FCC-2FCC/1=9EFD 2FCD-2FCD/1=9F0E 2FCE-2FCE/1=9F13 2FCF-2FCF/1=9F20
  2FD0-2FD0/1=9F3B 2FD1-2FD1/1=9F4A 2FD2-2FD2/1=9F52 2FD3-2FD3/1=9F8D 2FD4-2FD4/1=9F9C
  2FD5-2FD5/1=9FA0 3000-3000/1=20 3002-3002/1=2E 3036-3036/1=3012 3038-3038/1=5341
  3039-303A/1=5344 3131-3132/1=1100 3133-3135/2=11AA 3134-3134/1=1102 3136-3136/1=11AD
  3137-3139/1=1103 313A-313F/1=11B0 3140-3140/1=111A 3141-3143/1=1106 3144-3144/1=1121
  3145-314E/1=1109 314F-3163/1=1161 3165-3166/1=1114 3167-3168/1=11C7 3169-3169/1=11CC
  316A-316A/1=11CE 316B-316B/1=11D3 316C-316C/1=11D7 316D-316D/1=11D9 316E-316E/1=111C
  316F-316F/1=11DD 3170-3170/1=11DF 3171-3172/1=111D 3173-3173/1=1120 3174-3175/1=1122
  3176-3176/1=1127 3177-3177/1=1129 3178-317C/1=112B 317D-317D/1=1132 317E-317E/1=1136
  317F-317F/1=1140 3180-3180/1=1147 3181-3181/1=114C 3182-3183/1=11F1 3184-3186/1=1157
  3187-3188/1=1184 3189-3189/1=1188 318A-318B/1=1191 318C-318C/1=1194 318D-318D/1=119E
  318E-318E/1=11A1 3192-3192/1=4E00 3193-3193/1=4E8C 3194-3194/1=4E09 3195-3195/1=56DB
  3196-3196/1=4E0A 3197-3197/1=4E2D 3198-3198/1=4E0B 3199-3199/1=7532 319A-319A/1=4E59
  319B-319B/1=4E19 319C-319C/1=4E01 319D-319D/1=5929 319E-319E/1=5730 319F-319F/1=4EBA
  3244-3244/1=554F 3245-3245/1=5E7C 3246-3246/1=6587 3247-3247/1=7B8F 3260-3260/1=1100
  3261-3262/1=1102 3263-3265/1=1105 3266-3266/1=1109 3267-3268/1=110B 3269-326D/1=110E
  326E-326E/1=AC00 326F-326F/1=B098 3270-3270/1=B2E4 3271-3271/1=B77C 3272-3272/1=B9C8
  3273-3273/1=BC14 3274-3274/1=C0AC 3275-3275/1=C544 3276-3276/1=C790 3277-3277/1=CC28
  3278-3278/1=CE74 3279-3279/1=D0C0 327A-327A/1=D30C 327B-327B/1=D558 327E-327E/1=C6B0
  3280-3280/1=4E00 3281-3281/1=4E8C 3282-3282/1=4E09 3283-3283/1=56DB 3284-3284/1=4E94
  3285-3285/1=516D 3286-3286/1=4E03 3287-3287/1=516B 3288-3288/1=4E5D 3289-3289/1=5341
  328A-328A/1=6708 328B-328B/1=706B 328C-328C/1=6C34 328D-328D/1=6728 328E-328E/1=91D1
  328F-328F/1=571F 3290-3290/1=65E5 3291-3291/1=682A 3292-3292/1=6709 3293-3293/1=793E
  3294-3294/1=540D 3295-3295/1=7279 3296-3296/1=8CA1 3297-3297/1=795D 3298-3298/1=52B4
  3299-3299/1=79D8 329A-329A/1=7537 329B-329B/1=5973 329C-329C/1=9069 329D-329D/1=512A
  329E-329E/1=5370 329F-329F/1=6CE8 32A0-32A0/1=9805 32A1-32A1/1=4F11 32A2-32A2/1=5199
  32A3-32A3/1=6B63 32A4-32A4/1=4E0A 32A5-32A5/1=4E2D 32A6-32A6/1=4E0B 32A7-32A7/1=5DE6
  32A8-32A8/1=53F3 32A9-32A9/1=533B 32AA-32AA/1=5B97 32AB-32AB/1=5B66 32AC-32AC/1=76E3
  32AD-32AD/1=4F01 32AE-32AE/1=8CC7 32AF-32AF/1=5354 32B0-32B0/1=591C 32D0-32D0/1=30A2
  32D1-32D1/1=30A4 32D2-32D2/1=30A6 32D3-32D3/1=30A8 32D4-32D5/1=30AA 32D6-32D6/1=30AD
  32D7-32D7/1=30AF 32D8-32D8/1=30B1 32D9-32D9/1=30B3 32DA-32DA/1=30B5 32DB-32DB/1=30B7
  32DC-32DC/1=30B9 32DD-32DD/1=30BB 32DE-32DE/1=30BD 32DF-32DF/1=30BF 32E0-32E0/1=30C1
  32E1-32E1/1=30C4 32E2-32E2/1=30C6 32E3-32E3/1=30C8 32E4-32E9/1=30CA 32EA-32EA/1=30D2
  32EB-32EB/1=30D5 32EC-32EC/1=30D8 32ED-32ED/1=30DB 32EE-32F2/1=30DE 32F3-32F3/1=30E4
  32F4-32F4/1=30E6 32F5-32FA/1=30E8 32FB-32FE/1=30EF A640-A66C/2=A641 A680-A69A/2=A681
  A69C-A69C/1=44A A69D-A69D/1=44C A722-A72E/2=A723 A732-A76E/2=A733 A770-A770/1=A76F
  A779-A77B/2=A77A A77D-A77D/1=1D79 A77E-A786/2=A77F A78B-A78B/1=A78C A78D-A78D/1=265
  A790-A792/2=A791 A796-A7A8/2=A797 A7AA-A7AA/1=266 A7AB-A7AB/1=25C A7AC-A7AC/1=261
  A7AD-A7AD/1=26C A7AE-A7AE/1=26A A7B0-A7B0/1=29E A7B1-A7B1/1=287 A7B2-A7B2/1=29D A7B3-A7B3/1=AB53
  A7B4-A7C2/2=A7B5 A7C4-A7C4/1=A794 A7C5-A7C5/1=282 A7C6-A7C6/1=1D8E A7C7-A7C9/2=A7C8
  A7CB-A7CB/1=264 A7CC-A7DA/2=A7CD A7DC-A7DC/1=19B A7F1-A7F1/1=73 A7F2-A7F2/1=63 A7F3-A7F3/1=66
  A7F4-A7F4/1=71 A7F5-A7F5/1=A7F6 A7F8-A7F8/1=127 A7F9-A7F9/1=153 AB5C-AB5C/1=A727
  AB5D-AB5D/1=AB37 AB5E-AB5E/1=26B AB5F-AB5F/1=AB52 AB69-AB69/1=28D AB70-ABBF/1=13A0
  F900-F900/1=8C48 F901-F901/1=66F4 F902-F902/1=8ECA F903-F903/1=8CC8 F904-F904/1=6ED1
  F905-F905/1=4E32 F906-F906/1=53E5 F907-F907/1=9F9C F908-F908/1=9F9C F909-F909/1=5951
  F90A-F90A/1=91D1 F90B-F90B/1=5587 F90C-F90C/1=5948 F90D-F90D/1=61F6 F90E-F90E/1=7669
  F90F-F90F/1=7F85 F910-F910/1=863F F911-F911/1=87BA F912-F912/1=88F8 F913-F913/1=908F
  F914-F914/1=6A02 F915-F915/1=6D1B F916-F916/1=70D9 F917-F917/1=73DE F918-F918/1=843D
  F919-F919/1=916A F91A-F91A/1=99F1 F91B-F91B/1=4E82 F91C-F91C/1=5375 F91D-F91D/1=6B04
  F91E-F91E/1=721B F91F-F91F/1=862D F920-F920/1=9E1E F921-F921/1=5D50 F922-F922/1=6FEB
  F923-F923/1=85CD F924-F924/1=8964 F925-F925/1=62C9 F926-F926/1=81D8 F927-F927/1=881F
  F928-F928/1=5ECA F929-F929/1=6717 F92A-F92A/1=6D6A F92B-F92B/1=72FC F92C-F92C/1=90CE
  F92D-F92D/1=4F86 F92E-F92E/1=51B7 F92F-F92F/1=52DE F930-F930/1=64C4 F931-F931/1=6AD3
  F932-F932/1=7210 F933-F933/1=76E7 F934-F934/1=8001 F935-F935/1=8606 F936-F936/1=865C
  F937-F937/1=8DEF F938-F938/1=9732 F939-F939/1=9B6F F93A-F93A/1=9DFA F93B-F93B/1=788C
  F93C-F93C/1=797F F93D-F93D/1=7DA0 F93E-F93E/1=83C9 F93F-F93F/1=9304 F940-F940/1=9E7F
  F941-F941/1=8AD6 F942-F942/1=58DF F943-F943/1=5F04 F944-F944/1=7C60 F945-F945/1=807E
  F946-F946/1=7262 F947-F947/1=78CA F948-F948/1=8CC2 F949-F949/1=96F7 F94A-F94A/1=58D8
  F94B-F94B/1=5C62 F94C-F94C/1=6A13 F94D-F94D/1=6DDA F94E-F94E/1=6F0F F94F-F94F/1=7D2F
  F950-F950/1=7E37 F951-F951/1=964B F952-F952/1=52D2 F953-F953/1=808B F954-F954/1=51DC
  F955-F955/1=51CC F956-F956/1=7A1C F957-F957/1=7DBE F958-F958/1=83F1 F959-F959/1=9675
  F95A-F95A/1=8B80 F95B-F95B/1=62CF F95C-F95C/1=6A02 F95D-F95D/1=8AFE F95E-F95E/1=4E39
  F95F-F95F/1=5BE7 F960-F960/1=6012 F961-F961/1=7387 F962-F962/1=7570 F963-F963/1=5317
  F964-F964/1=78FB F965-F965/1=4FBF F966-F966/1=5FA9 F967-F967/1=4E0D F968-F968/1=6CCC
  F969-F969/1=6578 F96A-F96A/1=7D22 F96B-F96B/1=53C3 F96C-F96C/1=585E F96D-F96D/1=7701
  F96E-F96E/1=8449 F96F-F96F/1=8AAA F970-F970/1=6BBA F971-F971/1=8FB0 F972-F972/1=6C88
  F973-F973/1=62FE F974-F974/1=82E5 F975-F975/1=63A0 F976-F976/1=7565 F977-F977/1=4EAE
  F978-F978/1=5169 F979-F979/1=51C9 F97A-F97A/1=6881 F97B-F97B/1=7CE7 F97C-F97C/1=826F
  F97D-F97D/1=8AD2 F97E-F97E/1=91CF F97F-F97F/1=52F5 F980-F980/1=5442 F981-F981/1=5973
  F982-F982/1=5EEC F983-F983/1=65C5 F984-F984/1=6FFE F985-F985/1=792A F986-F986/1=95AD
  F987-F987/1=9A6A F988-F988/1=9E97 F989-F989/1=9ECE F98A-F98A/1=529B F98B-F98B/1=66C6
  F98C-F98C/1=6B77 F98D-F98D/1=8F62 F98E-F98E/1=5E74 F98F-F98F/1=6190 F990-F990/1=6200
  F991-F991/1=649A F992-F992/1=6F23 F993-F993/1=7149 F994-F994/1=7489 F995-F995/1=79CA
  F996-F996/1=7DF4 F997-F997/1=806F F998-F998/1=8F26 F999-F999/1=84EE F99A-F99A/1=9023
  F99B-F99B/1=934A F99C-F99C/1=5217 F99D-F99D/1=52A3 F99E-F99E/1=54BD F99F-F99F/1=70C8
  F9A0-F9A0/1=88C2 F9A1-F9A1/1=8AAA F9A2-F9A2/1=5EC9 F9A3-F9A3/1=5FF5 F9A4-F9A4/1=637B
  F9A5-F9A5/1=6BAE F9A6-F9A6/1=7C3E F9A7-F9A7/1=7375 F9A8-F9A8/1=4EE4 F9A9-F9A9/1=56F9
  F9AA-F9AA/1=5BE7 F9AB-F9AB/1=5DBA F9AC-F9AC/1=601C F9AD-F9AD/1=73B2 F9AE-F9AE/1=7469
  F9AF-F9AF/1=7F9A F9B0-F9B0/1=8046 F9B1-F9B1/1=9234 F9B2-F9B2/1=96F6 F9B3-F9B3/1=9748
  F9B4-F9B4/1=9818 F9B5-F9B5/1=4F8B F9B6-F9B6/1=79AE F9B7-F9B7/1=91B4 F9B8-F9B8/1=96B8
  F9B9-F9B9/1=60E1 F9BA-F9BA/1=4E86 F9BB-F9BB/1=50DA F9BC-F9BC/1=5BEE F9BD-F9BD/1=5C3F
  F9BE-F9BE/1=6599 F9BF-F9BF/1=6A02 F9C0-F9C0/1=71CE F9C1-F9C1/1=7642 F9C2-F9C2/1=84FC
  F9C3-F9C3/1=907C F9C4-F9C4/1=9F8D F9C5-F9C5/1=6688 F9C6-F9C6/1=962E F9C7-F9C7/1=5289
  F9C8-F9C8/1=677B F9C9-F9C9/1=67F3 F9CA-F9CA/1=6D41 F9CB-F9CB/1=6E9C F9CC-F9CC/1=7409
  F9CD-F9CD/1=7559 F9CE-F9CE/1=786B F9CF-F9CF/1=7D10 F9D0-F9D0/1=985E F9D1-F9D1/1=516D
  F9D2-F9D2/1=622E F9D3-F9D3/1=9678 F9D4-F9D4/1=502B F9D5-F9D5/1=5D19 F9D6-F9D6/1=6DEA
  F9D7-F9D7/1=8F2A F9D8-F9D8/1=5F8B F9D9-F9D9/1=6144 F9DA-F9DA/1=6817 F9DB-F9DB/1=7387
  F9DC-F9DC/1=9686 F9DD-F9DD/1=5229 F9DE-F9DE/1=540F F9DF-F9DF/1=5C65 F9E0-F9E0/1=6613
  F9E1-F9E1/1=674E F9E2-F9E2/1=68A8 F9E3-F9E3/1=6CE5 F9E4-F9E4/1=7406 F9E5-F9E5/1=75E2
  F9E6-F9E6/1=7F79 F9E7-F9E7/1=88CF F9E8-F9E8/1=88E1 F9E9-F9E9/1=91CC F9EA-F9EA/1=96E2
  F9EB-F9EB/1=533F F9EC-F9EC/1=6EBA F9ED-F9ED/1=541D F9EE-F9EE/1=71D0 F9EF-F9EF/1=7498
  F9F0-F9F0/1=85FA F9F1-F9F1/1=96A3 F9F2-F9F2/1=9C57 F9F3-F9F3/1=9E9F F9F4-F9F4/1=6797
  F9F5-F9F5/1=6DCB F9F6-F9F6/1=81E8 F9F7-F9F7/1=7ACB F9F8-F9F8/1=7B20 F9F9-F9F9/1=7C92
  F9FA-F9FA/1=72C0 F9FB-F9FB/1=7099 F9FC-F9FC/1=8B58 F9FD-F9FD/1=4EC0 F9FE-F9FE/1=8336
  F9FF-F9FF/1=523A FA00-FA00/1=5207 FA01-FA01/1=5EA6 FA02-FA02/1=62D3 FA03-FA03/1=7CD6
  FA04-FA04/1=5B85 FA05-FA05/1=6D1E FA06-FA06/1=66B4 FA07-FA07/1=8F3B FA08-FA08/1=884C
  FA09-FA09/1=964D FA0A-FA0A/1=898B FA0B-FA0B/1=5ED3 FA0C-FA0C/1=5140 FA0D-FA0D/1=55C0
  FA10-FA10/1=585A FA12-FA12/1=6674 FA15-FA15/1=51DE FA16-FA16/1=732A FA17-FA17/1=76CA
  FA18-FA18/1=793C FA19-FA19/1=795E FA1A-FA1A/1=7965 FA1B-FA1B/1=798F FA1C-FA1C/1=9756
  FA1D-FA1D/1=7CBE FA1E-FA1E/1=7FBD FA20-FA20/1=8612 FA22-FA22/1=8AF8 FA25-FA25/1=9038
  FA26-FA26/1=90FD FA2A-FA2A/1=98EF FA2B-FA2B/1=98FC FA2C-FA2C/1=9928 FA2D-FA2D/1=9DB4
  FA2E-FA2E/1=90DE FA2F-FA2F/1=96B7 FA30-FA30/1=4FAE FA31-FA31/1=50E7 FA32-FA32/1=514D
  FA33-FA33/1=52C9 FA34-FA34/1=52E4 FA35-FA35/1=5351 FA36-FA36/1=559D FA37-FA37/1=5606
  FA38-FA38/1=5668 FA39-FA39/1=5840 FA3A-FA3A/1=58A8 FA3B-FA3B/1=5C64 FA3C-FA3C/1=5C6E
  FA3D-FA3D/1=6094 FA3E-FA3E/1=6168 FA3F-FA3F/1=618E FA40-FA40/1=61F2 FA41-FA41/1=654F
  FA42-FA42/1=65E2 FA43-FA43/1=6691 FA44-FA44/1=6885 FA45-FA45/1=6D77 FA46-FA46/1=6E1A
  FA47-FA47/1=6F22 FA48-FA48/1=716E FA49-FA49/1=722B FA4A-FA4A/1=7422 FA4B-FA4B/1=7891
  FA4C-FA4C/1=793E FA4D-FA4D/1=7949 FA4E-FA4E/1=7948 FA4F-FA4F/1=7950 FA50-FA50/1=7956
  FA51-FA51/1=795D FA52-FA53/1=798D FA54-FA54/1=7A40 FA55-FA55/1=7A81 FA56-FA56/1=7BC0
  FA57-FA57/1=7DF4 FA58-FA58/1=7E09 FA59-FA59/1=7E41 FA5A-FA5A/1=7F72 FA5B-FA5B/1=8005
  FA5C-FA5C/1=81ED FA5D-FA5D/1=8279 FA5E-FA5E/1=8279 FA5F-FA5F/1=8457 FA60-FA60/1=8910
  FA61-FA61/1=8996 FA62-FA62/1=8B01 FA63-FA63/1=8B39 FA64-FA64/1=8CD3 FA65-FA65/1=8D08
  FA66-FA66/1=8FB6 FA67-FA67/1=9038 FA68-FA68/1=96E3 FA69-FA69/1=97FF FA6A-FA6A/1=983B
  FA6B-FA6B/1=6075 FA6C-FA6C/1=242EE FA6D-FA6D/1=8218 FA70-FA70/1=4E26 FA71-FA71/1=51B5
  FA72-FA72/1=5168 FA73-FA73/1=4F80 FA74-FA74/1=5145 FA75-FA75/1=5180 FA76-FA76/1=52C7
  FA77-FA77/1=52FA FA78-FA78/1=559D FA79-FA79/1=5555 FA7A-FA7A/1=5599 FA7B-FA7B/1=55E2
  FA7C-FA7C/1=585A FA7D-FA7D/1=58B3 FA7E-FA7E/1=5944 FA7F-FA7F/1=5954 FA80-FA80/1=5A62
  FA81-FA81/1=5B28 FA82-FA82/1=5ED2 FA83-FA83/1=5ED9 FA84-FA84/1=5F69 FA85-FA85/1=5FAD
  FA86-FA86/1=60D8 FA87-FA87/1=614E FA88-FA88/1=6108 FA89-FA89/1=618E FA8A-FA8A/1=6160
  FA8B-FA8B/1=61F2 FA8C-FA8C/1=6234 FA8D-FA8D/1=63C4 FA8E-FA8E/1=641C FA8F-FA8F/1=6452
  FA90-FA90/1=6556 FA91-FA91/1=6674 FA92-FA92/1=6717 FA93-FA93/1=671B FA94-FA94/1=6756
  FA95-FA95/1=6B79 FA96-FA96/1=6BBA FA97-FA97/1=6D41 FA98-FA98/1=6EDB FA99-FA99/1=6ECB
  FA9A-FA9A/1=6F22 FA9B-FA9B/1=701E FA9C-FA9C/1=716E FA9D-FA9D/1=77A7 FA9E-FA9E/1=7235
  FA9F-FA9F/1=72AF FAA0-FAA0/1=732A FAA1-FAA1/1=7471 FAA2-FAA2/1=7506 FAA3-FAA3/1=753B
  FAA4-FAA4/1=761D FAA5-FAA5/1=761F FAA6-FAA6/1=76CA FAA7-FAA7/1=76DB FAA8-FAA8/1=76F4
  FAA9-FAA9/1=774A FAAA-FAAA/1=7740 FAAB-FAAB/1=78CC FAAC-FAAC/1=7AB1 FAAD-FAAD/1=7BC0
  FAAE-FAAE/1=7C7B FAAF-FAAF/1=7D5B FAB0-FAB0/1=7DF4 FAB1-FAB1/1=7F3E FAB2-FAB2/1=8005
  FAB3-FAB3/1=8352 FAB4-FAB4/1=83EF FAB5-FAB5/1=8779 FAB6-FAB6/1=8941 FAB7-FAB7/1=8986
  FAB8-FAB8/1=8996 FAB9-FAB9/1=8ABF FABA-FABA/1=8AF8 FABB-FABB/1=8ACB FABC-FABC/1=8B01
  FABD-FABD/1=8AFE FABE-FABE/1=8AED FABF-FABF/1=8B39 FAC0-FAC0/1=8B8A FAC1-FAC1/1=8D08
  FAC2-FAC2/1=8F38 FAC3-FAC3/1=9072 FAC4-FAC4/1=9199 FAC5-FAC5/1=9276 FAC6-FAC6/1=967C
  FAC7-FAC7/1=96E3 FAC8-FAC8/1=9756 FAC9-FAC9/1=97DB FACA-FACA/1=97FF FACB-FACB/1=980B
  FACC-FACC/1=983B FACD-FACD/1=9B12 FACE-FACE/1=9F9C FACF-FACF/1=2284A FAD0-FAD0/1=22844
  FAD1-FAD1/1=233D5 FAD2-FAD2/1=3B9D FAD3-FAD3/1=4018 FAD4-FAD4/1=4039 FAD5-FAD5/1=25249
  FAD6-FAD6/1=25CD0 FAD7-FAD7/1=27ED3 FAD8-FAD8/1=9F43 FAD9-FAD9/1=9F8E FB20-FB20/1=5E2
  FB21-FB21/1=5D0 FB22-FB23/1=5D3 FB24-FB26/1=5DB FB27-FB27/1=5E8 FB28-FB28/1=5EA FB29-FB29/1=2B
  FB50-FB50/1=671 FB51-FB51/1=671 FB52-FB52/1=67B FB53-FB53/1=67B FB54-FB54/1=67B FB55-FB55/1=67B
  FB56-FB56/1=67E FB57-FB57/1=67E FB58-FB5A/2=67E FB59-FB5B/2=67E FB5C-FB5C/1=680 FB5D-FB5D/1=680
  FB5E-FB5E/1=67A FB5F-FB5F/1=67A FB60-FB60/1=67A FB61-FB61/1=67A FB62-FB62/1=67F FB63-FB63/1=67F
  FB64-FB64/1=67F FB65-FB65/1=67F FB66-FB66/1=679 FB67-FB67/1=679 FB68-FB68/1=679 FB69-FB69/1=679
  FB6A-FB6A/1=6A4 FB6B-FB6B/1=6A4 FB6C-FB6E/2=6A4 FB6D-FB6F/2=6A4 FB70-FB70/1=6A6 FB71-FB71/1=6A6
  FB72-FB72/1=684 FB73-FB73/1=684 FB74-FB74/1=684 FB75-FB75/1=684 FB76-FB76/1=683 FB77-FB77/1=683
  FB78-FB78/1=683 FB79-FB79/1=683 FB7A-FB7A/1=686 FB7B-FB7B/1=686 FB7C-FB7C/1=686 FB7D-FB7E/1=686
  FB7F-FB7F/1=687 FB80-FB80/1=687 FB81-FB81/1=687 FB82-FB82/1=68D FB83-FB83/1=68D FB84-FB86/2=68C
  FB85-FB87/2=68C FB88-FB88/1=688 FB89-FB89/1=688 FB8A-FB8A/1=698 FB8B-FB8B/1=698 FB8C-FB8C/1=691
  FB8D-FB8D/1=691 FB8E-FB8E/1=6A9 FB8F-FB8F/1=6A9 FB90-FB90/1=6A9 FB91-FB91/1=6A9 FB92-FB92/1=6AF
  FB93-FB93/1=6AF FB94-FB94/1=6AF FB95-FB95/1=6AF FB96-FB96/1=6B3 FB97-FB97/1=6B3 FB98-FB98/1=6B3
  FB99-FB99/1=6B3 FB9A-FB9A/1=6B1 FB9B-FB9B/1=6B1 FB9C-FB9C/1=6B1 FB9D-FB9D/1=6B1 FB9E-FB9E/1=6BA
  FB9F-FBA0/1=6BA FBA1-FBA1/1=6BB FBA2-FBA2/1=6BB FBA3-FBA3/1=6BB FBA4-FBA4/1=6C0 FBA5-FBA6/1=6C0
  FBA7-FBA7/1=6C1 FBA8-FBA8/1=6C1 FBA9-FBA9/1=6C1 FBAA-FBAA/1=6BE FBAB-FBAB/1=6BE FBAC-FBAC/1=6BE
  FBAD-FBAD/1=6BE FBAE-FBAE/1=6D2 FBAF-FBB0/1=6D2 FBB1-FBB1/1=6D3 FBD3-FBD3/1=6AD FBD4-FBD4/1=6AD
  FBD5-FBD5/1=6AD FBD6-FBD6/1=6AD FBD7-FBD7/1=6C7 FBD8-FBD8/1=6C7 FBD9-FBDB/2=6C6 FBDA-FBDC/2=6C6
  FBDE-FBDE/1=6CB FBDF-FBDF/1=6CB FBE0-FBE0/1=6C5 FBE1-FBE1/1=6C5 FBE2-FBE2/1=6C9 FBE3-FBE3/1=6C9
  FBE4-FBE4/1=6D0 FBE5-FBE5/1=6D0 FBE6-FBE6/1=6D0 FBE7-FBE7/1=6D0 FBE8-FBE8/1=649 FBE9-FBE9/1=649
  FBFC-FBFC/1=6CC FBFD-FBFD/1=6CC FBFE-FBFE/1=6CC FBFF-FBFF/1=6CC FE10-FE10/1=2C FE11-FE11/1=3001
  FE13-FE14/1=3A FE15-FE15/1=21 FE16-FE16/1=3F FE17-FE18/1=3016 FE31-FE31/1=2014 FE32-FE32/1=2013
  FE33-FE33/1=5F FE34-FE34/1=5F FE35-FE36/1=28 FE37-FE37/1=7B FE38-FE38/1=7D FE39-FE3A/1=3014
  FE3B-FE3C/1=3010 FE3D-FE3E/1=300A FE3F-FE40/1=3008 FE41-FE44/1=300C FE47-FE47/1=5B
  FE48-FE48/1=5D FE4D-FE4D/1=5F FE4E-FE4E/1=5F FE4F-FE4F/1=5F FE50-FE50/1=2C FE51-FE51/1=3001
  FE54-FE54/1=3B FE55-FE55/1=3A FE56-FE56/1=3F FE57-FE57/1=21 FE58-FE58/1=2014 FE59-FE5A/1=28
  FE5B-FE5B/1=7B FE5C-FE5C/1=7D FE5D-FE5E/1=3014 FE5F-FE5F/1=23 FE60-FE60/1=26 FE61-FE62/1=2A
  FE63-FE63/1=2D FE64-FE64/1=3C FE65-FE65/1=3E FE66-FE66/1=3D FE68-FE68/1=5C FE69-FE6A/1=24
  FE6B-FE6B/1=40 FE80-FE81/1=621 FE82-FE83/1=622 FE84-FE85/1=623 FE86-FE87/1=624 FE88-FE89/1=625
  FE8A-FE8A/1=626 FE8B-FE8B/1=626 FE8C-FE8D/1=626 FE8E-FE8F/1=627 FE90-FE90/1=628 FE91-FE91/1=628
  FE92-FE93/1=628 FE94-FE95/1=629 FE96-FE96/1=62A FE97-FE97/1=62A FE98-FE99/1=62A FE9A-FE9A/1=62B
  FE9B-FE9B/1=62B FE9C-FE9D/1=62B FE9E-FE9E/1=62C FE9F-FE9F/1=62C FEA0-FEA1/1=62C FEA2-FEA2/1=62D
  FEA3-FEA3/1=62D FEA4-FEA5/1=62D FEA6-FEA6/1=62E FEA7-FEA7/1=62E FEA8-FEA9/1=62E FEAA-FEAB/1=62F
  FEAC-FEAD/1=630 FEAE-FEAF/1=631 FEB0-FEB1/1=632 FEB2-FEB2/1=633 FEB3-FEB3/1=633 FEB4-FEB5/1=633
  FEB6-FEB6/1=634 FEB7-FEB7/1=634 FEB8-FEB9/1=634 FEBA-FEBA/1=635 FEBB-FEBB/1=635 FEBC-FEBD/1=635
  FEBE-FEBE/1=636 FEBF-FEBF/1=636 FEC0-FEC1/1=636 FEC2-FEC2/1=637 FEC3-FEC3/1=637 FEC4-FEC5/1=637
  FEC6-FEC6/1=638 FEC7-FEC7/1=638 FEC8-FEC9/1=638 FECA-FECA/1=639 FECB-FECB/1=639 FECC-FECD/1=639
  FECE-FECE/1=63A FECF-FECF/1=63A FED0-FED0/1=63A FED1-FED1/1=641 FED2-FED2/1=641 FED3-FED3/1=641
  FED4-FED5/1=641 FED6-FED6/1=642 FED7-FED7/1=642 FED8-FED9/1=642 FEDA-FEDA/1=643 FEDB-FEDB/1=643
  FEDC-FEDD/1=643 FEDE-FEDE/1=644 FEDF-FEDF/1=644 FEE0-FEE1/1=644 FEE2-FEE2/1=645 FEE3-FEE3/1=645
  FEE4-FEE5/1=645 FEE6-FEE6/1=646 FEE7-FEE7/1=646 FEE8-FEE9/1=646 FEEA-FEEA/1=647 FEEB-FEEB/1=647
  FEEC-FEED/1=647 FEEE-FEEF/1=648 FEF0-FEF1/1=649 FEF2-FEF2/1=64A FEF3-FEF3/1=64A FEF4-FEF4/1=64A
  FF01-FF20/1=21 FF21-FF3A/1=61 FF3B-FF5E/1=5B FF5F-FF60/1=2985 FF61-FF61/1=2E FF62-FF63/1=300C
  FF64-FF64/1=3001 FF65-FF65/1=30FB FF66-FF66/1=30F2 FF67-FF67/1=30A1 FF68-FF68/1=30A3
  FF69-FF69/1=30A5 FF6A-FF6A/1=30A7 FF6B-FF6B/1=30A9 FF6C-FF6C/1=30E3 FF6D-FF6D/1=30E5
  FF6E-FF6E/1=30E7 FF6F-FF6F/1=30C3 FF70-FF70/1=30FC FF71-FF71/1=30A2 FF72-FF72/1=30A4
  FF73-FF73/1=30A6 FF74-FF74/1=30A8 FF75-FF76/1=30AA FF77-FF77/1=30AD FF78-FF78/1=30AF
  FF79-FF79/1=30B1 FF7A-FF7A/1=30B3 FF7B-FF7B/1=30B5 FF7C-FF7C/1=30B7 FF7D-FF7D/1=30B9
  FF7E-FF7E/1=30BB FF7F-FF7F/1=30BD FF80-FF80/1=30BF FF81-FF81/1=30C1 FF82-FF82/1=30C4
  FF83-FF83/1=30C6 FF84-FF84/1=30C8 FF85-FF8A/1=30CA FF8B-FF8B/1=30D2 FF8C-FF8C/1=30D5
  FF8D-FF8D/1=30D8 FF8E-FF8E/1=30DB FF8F-FF93/1=30DE FF94-FF94/1=30E4 FF95-FF95/1=30E6
  FF96-FF9B/1=30E8 FF9C-FF9C/1=30EF FF9D-FF9D/1=30F3 FF9E-FF9F/1=3099 FFA1-FFA2/1=1100
  FFA3-FFA5/2=11AA FFA4-FFA4/1=1102 FFA6-FFA6/1=11AD FFA7-FFA9/1=1103 FFAA-FFAF/1=11B0
  FFB0-FFB0/1=111A FFB1-FFB3/1=1106 FFB4-FFB4/1=1121 FFB5-FFBE/1=1109 FFC2-FFC7/1=1161
  FFCA-FFCF/1=1167 FFD2-FFD7/1=116D FFDA-FFDC/1=1173 FFE0-FFE1/1=A2 FFE2-FFE2/1=AC FFE4-FFE4/1=A6
  FFE5-FFE5/1=A5 FFE6-FFE6/1=20A9 FFE8-FFE8/1=2502 FFE9-FFEC/1=2190 FFED-FFED/1=25A0
  FFEE-FFEE/1=25CB 10400-10427/1=10428 104B0-104D3/1=104D8 10570-10594/2=10597 10571-10579/2=10598
  1057D-10589/2=105A4 1058D-10591/2=105B4 10595-10595/1=105BC 10781-10782/1=2D0 10783-10783/1=E6
  10784-10784/1=299 10785-10785/1=253 10787-10789/2=2A3 10788-10788/1=AB66 1078A-1078A/1=2A4
  1078B-1078C/1=256 1078D-1078D/1=1D91 1078E-1078E/1=258 1078F-1078F/1=25E 10790-10790/1=2A9
  10791-10791/1=264 10792-10792/1=262 10793-10793/1=260 10794-10794/1=29B 10795-10795/1=127
  10796-10796/1=29C 10797-10797/1=267 10798-10798/1=284 10799-1079A/1=2AA 1079B-1079B/1=26C
  1079C-1079C/1=1DF04 1079D-1079D/1=A78E 1079E-1079E/1=26E 1079F-1079F/1=1DF05 107A0-107A0/1=28E
  107A1-107A1/1=1DF06 107A2-107A2/1=F8 107A3-107A4/1=276 107A5-107A5/1=71 107A6-107A6/1=27A
  107A7-107A7/1=1DF08 107A8-107A9/1=27D 107AA-107AA/1=280 107AB-107AB/1=2A8 107AC-107AC/1=2A6
  107AD-107AD/1=AB67 107AE-107AE/1=2A7 107AF-107AF/1=288 107B0-107B0/1=2C71 107B2-107B2/1=28F
  107B3-107B4/1=2A1 107B5-107B5/1=298 107B6-107B8/1=1C0 107B9-107B9/1=1DF0A 107BA-107BA/1=1DF1E
  10C80-10CB2/1=10CC0 10D50-10D65/1=10D70 118A0-118BF/1=118C0 16E40-16E5F/1=16E60
  16EA0-16EB8/1=16EBB 1CCD6-1CCEF/1=61 1CCF0-1CCF9/1=30 1D400-1D419/1=61 1D41A-1D433/1=61
  1D434-1D44D/1=61 1D44E-1D466/2=61 1D44F-1D453/2=62 1D457-1D467/2=6A 1D468-1D481/1=61
  1D482-1D49B/1=61 1D49C-1D49E/2=61 1D49F-1D49F/1=64 1D4A2-1D4A2/1=67 1D4A5-1D4A6/1=6A
  1D4A9-1D4AC/1=6E 1D4AE-1D4B5/1=73 1D4B6-1D4B9/1=61 1D4BB-1D4CF/2=66 1D4BE-1D4C2/2=69
  1D4C6-1D4CE/2=71 1D4D0-1D4E9/1=61 1D4EA-1D503/1=61 1D504-1D505/1=61 1D507-1D50A/1=64
  1D50D-1D514/1=6A 1D516-1D51C/1=73 1D51E-1D537/1=61 1D538-1D539/1=61 1D53B-1D53E/1=64
  1D540-1D544/1=69 1D546-1D546/1=6F 1D54A-1D550/1=73 1D552-1D56B/1=61 1D56C-1D585/1=61
  1D586-1D59F/1=61 1D5A0-1D5B9/1=61 1D5BA-1D5D3/1=61 1D5D4-1D5ED/1=61 1D5EE-1D607/1=61
  1D608-1D621/1=61 1D622-1D63B/1=61 1D63C-1D655/1=61 1D656-1D66F/1=61 1D670-1D689/1=61
  1D68A-1D6A3/1=61 1D6A4-1D6A4/1=131 1D6A5-1D6A5/1=237 1D6A8-1D6B8/1=3B1 1D6B9-1D6B9/1=3B8
  1D6BA-1D6C0/1=3C3 1D6C1-1D6C1/1=2207 1D6C2-1D6D2/1=3B1 1D6D3-1D6D3/1=3C3 1D6D4-1D6DA/1=3C3
  1D6DB-1D6DB/1=2202 1D6DC-1D6DC/1=3B5 1D6DD-1D6DD/1=3B8 1D6DE-1D6DE/1=3BA 1D6DF-1D6DF/1=3C6
  1D6E0-1D6E0/1=3C1 1D6E1-1D6E1/1=3C0 1D6E2-1D6F2/1=3B1 1D6F3-1D6F3/1=3B8 1D6F4-1D6FA/1=3C3
  1D6FB-1D6FB/1=2207 1D6FC-1D70C/1=3B1 1D70D-1D70D/1=3C3 1D70E-1D714/1=3C3 1D715-1D715/1=2202
  1D716-1D716/1=3B5 1D717-1D717/1=3B8 1D718-1D718/1=3BA 1D719-1D719/1=3C6 1D71A-1D71A/1=3C1
  1D71B-1D71B/1=3C0 1D71C-1D72C/1=3B1 1D72D-1D72D/1=3B8 1D72E-1D734/1=3C3 1D735-1D735/1=2207
  1D736-1D746/1=3B1 1D747-1D747/1=3C3 1D748-1D74E/1=3C3 1D74F-1D74F/1=2202 1D750-1D750/1=3B5
  1D751-1D751/1=3B8 1D752-1D752/1=3BA 1D753-1D753/1=3C6 1D754-1D754/1=3C1 1D755-1D755/1=3C0
  1D756-1D766/1=3B1 1D767-1D767/1=3B8 1D768-1D76E/1=3C3 1D76F-1D76F/1=2207 1D770-1D780/1=3B1
  1D781-1D781/1=3C3 1D782-1D788/1=3C3 1D789-1D789/1=2202 1D78A-1D78A/1=3B5 1D78B-1D78B/1=3B8
  1D78C-1D78C/1=3BA 1D78D-1D78D/1=3C6 1D78E-1D78E/1=3C1 1D78F-1D78F/1=3C0 1D790-1D7A0/1=3B1
  1D7A1-1D7A1/1=3B8 1D7A2-1D7A8/1=3C3 1D7A9-1D7A9/1=2207 1D7AA-1D7BA/1=3B1 1D7BB-1D7BB/1=3C3
  1D7BC-1D7C2/1=3C3 1D7C3-1D7C3/1=2202 1D7C4-1D7C4/1=3B5 1D7C5-1D7C5/1=3B8 1D7C6-1D7C6/1=3BA
  1D7C7-1D7C7/1=3C6 1D7C8-1D7C8/1=3C1 1D7C9-1D7C9/1=3C0 1D7CA-1D7CA/1=3DD 1D7CB-1D7CB/1=3DD
  1D7CE-1D7D7/1=30 1D7D8-1D7E1/1=30 1D7E2-1D7EB/1=30 1D7EC-1D7F5/1=30 1D7F6-1D7FF/1=30
  1E030-1E038/1=430 1E039-1E03B/1=43A 1E03C-1E046/1=43E 1E047-1E047/1=44B 1E048-1E049/1=44D
  1E04A-1E04A/1=A689 1E04B-1E04B/1=4D9 1E04C-1E04C/1=456 1E04D-1E04D/1=458 1E04E-1E04E/1=4E9
  1E04F-1E04F/1=4AF 1E050-1E050/1=4CF 1E051-1E059/1=430 1E05A-1E05B/1=43A 1E05C-1E05D/1=43E
  1E05E-1E05E/1=441 1E05F-1E064/1=443 1E065-1E066/1=44A 1E067-1E067/1=491 1E068-1E068/1=456
  1E069-1E069/1=455 1E06A-1E06A/1=45F 1E06B-1E06B/1=4AB 1E06C-1E06C/1=A651 1E06D-1E06D/1=4B1
  1E900-1E921/1=1E922 1EE00-1EE01/1=627 1EE02-1EE02/1=62C 1EE03-1EE03/1=62F 1EE05-1EE05/1=648
  1EE06-1EE06/1=632 1EE07-1EE07/1=62D 1EE08-1EE08/1=637 1EE09-1EE09/1=64A 1EE0A-1EE0D/1=643
  1EE0E-1EE0E/1=633 1EE0F-1EE0F/1=639 1EE10-1EE10/1=641 1EE11-1EE11/1=635 1EE12-1EE12/1=642
  1EE13-1EE13/1=631 1EE14-1EE14/1=634 1EE15-1EE16/1=62A 1EE17-1EE17/1=62E 1EE18-1EE18/1=630
  1EE19-1EE19/1=636 1EE1A-1EE1A/1=638 1EE1B-1EE1B/1=63A 1EE1C-1EE1C/1=66E 1EE1D-1EE1D/1=6BA
  1EE1E-1EE1E/1=6A1 1EE1F-1EE1F/1=66F 1EE21-1EE21/1=628 1EE22-1EE22/1=62C 1EE24-1EE24/1=647
  1EE27-1EE27/1=62D 1EE29-1EE29/1=64A 1EE2A-1EE2D/1=643 1EE2E-1EE2E/1=633 1EE2F-1EE2F/1=639
  1EE30-1EE30/1=641 1EE31-1EE31/1=635 1EE32-1EE32/1=642 1EE34-1EE34/1=634 1EE35-1EE36/1=62A
  1EE37-1EE37/1=62E 1EE39-1EE39/1=636 1EE3B-1EE3B/1=63A 1EE42-1EE42/1=62C 1EE47-1EE47/1=62D
  1EE49-1EE49/1=64A 1EE4B-1EE4D/2=644 1EE4E-1EE4E/1=633 1EE4F-1EE4F/1=639 1EE51-1EE51/1=635
  1EE52-1EE52/1=642 1EE54-1EE54/1=634 1EE57-1EE57/1=62E 1EE59-1EE59/1=636 1EE5B-1EE5B/1=63A
  1EE5D-1EE5D/1=6BA 1EE5F-1EE5F/1=66F 1EE61-1EE61/1=628 1EE62-1EE62/1=62C 1EE64-1EE64/1=647
  1EE67-1EE67/1=62D 1EE68-1EE68/1=637 1EE69-1EE69/1=64A 1EE6A-1EE6C/2=643 1EE6D-1EE6D/1=646
  1EE6E-1EE6E/1=633 1EE6F-1EE6F/1=639 1EE70-1EE70/1=641 1EE71-1EE71/1=635 1EE72-1EE72/1=642
  1EE74-1EE74/1=634 1EE75-1EE76/1=62A 1EE77-1EE77/1=62E 1EE79-1EE79/1=636 1EE7A-1EE7A/1=638
  1EE7B-1EE7B/1=63A 1EE7C-1EE7C/1=66E 1EE7E-1EE7E/1=6A1 1EE80-1EE81/1=627 1EE82-1EE82/1=62C
  1EE83-1EE83/1=62F 1EE84-1EE85/1=647 1EE86-1EE86/1=632 1EE87-1EE87/1=62D 1EE88-1EE88/1=637
  1EE89-1EE89/1=64A 1EE8B-1EE8D/1=644 1EE8E-1EE8E/1=633 1EE8F-1EE8F/1=639 1EE90-1EE90/1=641
  1EE91-1EE91/1=635 1EE92-1EE92/1=642 1EE93-1EE93/1=631 1EE94-1EE94/1=634 1EE95-1EE96/1=62A
  1EE97-1EE97/1=62E 1EE98-1EE98/1=630 1EE99-1EE99/1=636 1EE9A-1EE9A/1=638 1EE9B-1EE9B/1=63A
  1EEA1-1EEA1/1=628 1EEA2-1EEA2/1=62C 1EEA3-1EEA3/1=62F 1EEA5-1EEA5/1=648 1EEA6-1EEA6/1=632
  1EEA7-1EEA7/1=62D 1EEA8-1EEA8/1=637 1EEA9-1EEA9/1=64A 1EEAB-1EEAD/1=644 1EEAE-1EEAE/1=633
  1EEAF-1EEAF/1=639 1EEB0-1EEB0/1=641 1EEB1-1EEB1/1=635 1EEB2-1EEB2/1=642 1EEB3-1EEB3/1=631
  1EEB4-1EEB4/1=634 1EEB5-1EEB6/1=62A 1EEB7-1EEB7/1=62E 1EEB8-1EEB8/1=630 1EEB9-1EEB9/1=636
  1EEBA-1EEBA/1=638 1EEBB-1EEBB/1=63A 1F12B-1F12B/1=63 1F12C-1F12C/1=72 1F130-1F149/1=61
  1F202-1F202/1=30B5 1F210-1F210/1=624B 1F211-1F211/1=5B57 1F212-1F212/1=53CC 1F213-1F213/1=30C7
  1F214-1F214/1=4E8C 1F215-1F215/1=591A 1F216-1F216/1=89E3 1F217-1F217/1=5929 1F218-1F218/1=4EA4
  1F219-1F219/1=6620 1F21A-1F21A/1=7121 1F21B-1F21B/1=6599 1F21C-1F21C/1=524D 1F21D-1F21D/1=5F8C
  1F21E-1F21E/1=518D 1F21F-1F21F/1=65B0 1F220-1F220/1=521D 1F221-1F221/1=7D42 1F222-1F222/1=751F
  1F223-1F223/1=8CA9 1F224-1F224/1=58F0 1F225-1F225/1=5439 1F226-1F226/1=6F14 1F227-1F227/1=6295
  1F228-1F228/1=6355 1F229-1F229/1=4E00 1F22A-1F22A/1=4E09 1F22B-1F22B/1=904A 1F22C-1F22C/1=5DE6
  1F22D-1F22D/1=4E2D 1F22E-1F22E/1=53F3 1F22F-1F22F/1=6307 1F230-1F230/1=8D70 1F231-1F231/1=6253
  1F232-1F232/1=7981 1F233-1F233/1=7A7A 1F234-1F234/1=5408 1F235-1F235/1=6E80 1F236-1F236/1=6709
  1F237-1F237/1=6708 1F238-1F238/1=7533 1F239-1F239/1=5272 1F23A-1F23A/1=55B6 1F23B-1F23B/1=914D
  1F250-1F250/1=5F97 1F251-1F251/1=53EF 1FBF0-1FBF9/1=30 2F800-2F800/1=4E3D 2F801-2F801/1=4E38
  2F802-2F802/1=4E41 2F803-2F803/1=20122 2F804-2F804/1=4F60 2F805-2F805/1=4FAE 2F806-2F806/1=4FBB
  2F807-2F807/1=5002 2F808-2F808/1=507A 2F809-2F809/1=5099 2F80A-2F80A/1=50E7 2F80B-2F80B/1=50CF
  2F80C-2F80C/1=349E 2F80D-2F80D/1=2063A 2F80E-2F80E/1=514D 2F80F-2F80F/1=5154 2F810-2F810/1=5164
  2F811-2F811/1=5177 2F812-2F812/1=2051C 2F813-2F813/1=34B9 2F814-2F814/1=5167 2F815-2F815/1=518D
  2F816-2F816/1=2054B 2F817-2F817/1=5197 2F818-2F818/1=51A4 2F819-2F819/1=4ECC 2F81A-2F81A/1=51AC
  2F81B-2F81B/1=51B5 2F81C-2F81C/1=291DF 2F81D-2F81D/1=51F5 2F81E-2F81E/1=5203 2F81F-2F81F/1=34DF
  2F820-2F820/1=523B 2F821-2F821/1=5246 2F822-2F822/1=5272 2F823-2F823/1=5277 2F824-2F824/1=3515
  2F825-2F825/1=52C7 2F826-2F826/1=52C9 2F827-2F827/1=52E4 2F828-2F828/1=52FA 2F829-2F82A/1=5305
  2F82B-2F82B/1=5317 2F82C-2F82C/1=5349 2F82D-2F82D/1=5351 2F82E-2F82E/1=535A 2F82F-2F82F/1=5373
  2F830-2F832/2=537D 2F831-2F831/1=537F 2F833-2F833/1=537F 2F834-2F834/1=20A2C 2F835-2F835/1=7070
  2F836-2F836/1=53CA 2F837-2F837/1=53DF 2F838-2F838/1=20B63 2F839-2F839/1=53EB 2F83A-2F83A/1=53F1
  2F83B-2F83B/1=5406 2F83C-2F83C/1=549E 2F83D-2F83D/1=5438 2F83E-2F83E/1=5448 2F83F-2F83F/1=5468
  2F840-2F840/1=54A2 2F841-2F841/1=54F6 2F842-2F842/1=5510 2F843-2F843/1=5553 2F844-2F844/1=5563
  2F845-2F845/1=5584 2F846-2F846/1=5584 2F847-2F847/1=5599 2F848-2F848/1=55AB 2F849-2F849/1=55B3
  2F84A-2F84A/1=55C2 2F84B-2F84B/1=5716 2F84C-2F84C/1=5606 2F84D-2F84D/1=5717 2F84E-2F84E/1=5651
  2F84F-2F84F/1=5674 2F850-2F850/1=5207 2F851-2F851/1=58EE 2F852-2F852/1=57CE 2F853-2F853/1=57F4
  2F854-2F854/1=580D 2F855-2F855/1=578B 2F856-2F856/1=5832 2F857-2F857/1=5831 2F858-2F858/1=58AC
  2F859-2F859/1=214E4 2F85A-2F85A/1=58F2 2F85B-2F85B/1=58F7 2F85C-2F85C/1=5906 2F85D-2F85D/1=591A
  2F85E-2F85E/1=5922 2F85F-2F85F/1=5962 2F860-2F860/1=216A8 2F861-2F861/1=216EA 2F862-2F862/1=59EC
  2F863-2F863/1=5A1B 2F864-2F864/1=5A27 2F865-2F865/1=59D8 2F866-2F866/1=5A66 2F867-2F867/1=36EE
  2F868-2F868/1=36FC 2F869-2F869/1=5B08 2F86A-2F86A/1=5B3E 2F86B-2F86B/1=5B3E 2F86C-2F86C/1=219C8
  2F86D-2F86D/1=5BC3 2F86E-2F86E/1=5BD8 2F86F-2F86F/1=5BE7 2F870-2F870/1=5BF3 2F871-2F871/1=21B18
  2F872-2F872/1=5BFF 2F873-2F873/1=5C06 2F874-2F874/1=5F53 2F875-2F875/1=5C22 2F876-2F876/1=3781
  2F877-2F877/1=5C60 2F878-2F878/1=5C6E 2F879-2F879/1=5CC0 2F87A-2F87A/1=5C8D 2F87B-2F87D/2=21DE4
  2F87C-2F87C/1=5D43 2F87E-2F87E/1=5D6E 2F87F-2F87F/1=5D6B 2F880-2F880/1=5D7C 2F881-2F882/1=5DE1
  2F883-2F883/1=382F 2F884-2F884/1=5DFD 2F885-2F885/1=5E28 2F886-2F886/1=5E3D 2F887-2F887/1=5E69
  2F888-2F888/1=3862 2F889-2F889/1=22183 2F88A-2F88A/1=387C 2F88B-2F88B/1=5EB0 2F88C-2F88C/1=5EB3
  2F88D-2F88D/1=5EB6 2F88E-2F88E/1=5ECA 2F88F-2F88F/1=2A392 2F890-2F890/1=5EFE 2F891-2F891/1=22331
  2F892-2F892/1=22331 2F893-2F893/1=8201 2F894-2F894/1=5F22 2F895-2F895/1=5F22 2F896-2F896/1=38C7
  2F897-2F897/1=232B8 2F898-2F898/1=261DA 2F899-2F899/1=5F62 2F89A-2F89A/1=5F6B 2F89B-2F89B/1=38E3
  2F89C-2F89C/1=5F9A 2F89D-2F89D/1=5FCD 2F89E-2F89E/1=5FD7 2F89F-2F89F/1=5FF9 2F8A0-2F8A0/1=6081
  2F8A1-2F8A1/1=393A 2F8A2-2F8A2/1=391C 2F8A3-2F8A3/1=6094 2F8A4-2F8A4/1=226D4 2F8A5-2F8A5/1=60C7
  2F8A6-2F8A6/1=6148 2F8A7-2F8A7/1=614C 2F8A8-2F8A8/1=614E 2F8A9-2F8A9/1=614C 2F8AA-2F8AA/1=617A
  2F8AB-2F8AB/1=618E 2F8AC-2F8AC/1=61B2 2F8AD-2F8AD/1=61A4 2F8AE-2F8AE/1=61AF 2F8AF-2F8AF/1=61DE
  2F8B0-2F8B0/1=61F2 2F8B1-2F8B1/1=61F6 2F8B2-2F8B2/1=6210 2F8B3-2F8B3/1=621B 2F8B4-2F8B4/1=625D
  2F8B5-2F8B5/1=62B1 2F8B6-2F8B6/1=62D4 2F8B7-2F8B7/1=6350 2F8B8-2F8B8/1=22B0C 2F8B9-2F8B9/1=633D
  2F8BA-2F8BA/1=62FC 2F8BB-2F8BB/1=6368 2F8BC-2F8BC/1=6383 2F8BD-2F8BD/1=63E4 2F8BE-2F8BE/1=22BF1
  2F8BF-2F8BF/1=6422 2F8C0-2F8C0/1=63C5 2F8C1-2F8C1/1=63A9 2F8C2-2F8C2/1=3A2E 2F8C3-2F8C3/1=6469
  2F8C4-2F8C4/1=647E 2F8C5-2F8C5/1=649D 2F8C6-2F8C6/1=6477 2F8C7-2F8C7/1=3A6C 2F8C8-2F8C8/1=654F
  2F8C9-2F8C9/1=656C 2F8CA-2F8CA/1=2300A 2F8CB-2F8CB/1=65E3 2F8CC-2F8CC/1=66F8 2F8CD-2F8CD/1=6649
  2F8CE-2F8CE/1=3B19 2F8CF-2F8CF/1=6691 2F8D0-2F8D0/1=3B08 2F8D1-2F8D1/1=3AE4 2F8D2-2F8D2/1=5192
  2F8D3-2F8D3/1=5195 2F8D4-2F8D4/1=6700 2F8D5-2F8D5/1=669C 2F8D6-2F8D6/1=80AD 2F8D7-2F8D7/1=43D9
  2F8D8-2F8D8/1=6717 2F8D9-2F8D9/1=671B 2F8DA-2F8DA/1=6721 2F8DB-2F8DB/1=675E 2F8DC-2F8DC/1=6753
  2F8DD-2F8DD/1=233C3 2F8DE-2F8DE/1=3B49 2F8DF-2F8DF/1=67FA 2F8E0-2F8E0/1=6785 2F8E1-2F8E1/1=6852
  2F8E2-2F8E2/1=6885 2F8E3-2F8E3/1=2346D 2F8E4-2F8E4/1=688E 2F8E5-2F8E5/1=681F 2F8E6-2F8E6/1=6914
  2F8E7-2F8E7/1=3B9D 2F8E8-2F8E8/1=6942 2F8E9-2F8E9/1=69A3 2F8EA-2F8EA/1=69EA 2F8EB-2F8EB/1=6AA8
  2F8EC-2F8EC/1=236A3 2F8ED-2F8ED/1=6ADB 2F8EE-2F8EE/1=3C18 2F8EF-2F8EF/1=6B21 2F8F0-2F8F0/1=238A7
  2F8F1-2F8F1/1=6B54 2F8F2-2F8F2/1=3C4E 2F8F3-2F8F3/1=6B72 2F8F4-2F8F4/1=6B9F 2F8F5-2F8F6/1=6BBA
  2F8F7-2F8F7/1=23A8D 2F8F8-2F8F8/1=21D0B 2F8F9-2F8F9/1=23AFA 2F8FA-2F8FA/1=6C4E
  2F8FB-2F8FB/1=23CBC 2F8FC-2F8FC/1=6CBF 2F8FD-2F8FD/1=6CCD 2F8FE-2F8FE/1=6C67 2F8FF-2F8FF/1=6D16
  2F900-2F900/1=6D3E 2F901-2F901/1=6D77 2F902-2F902/1=6D41 2F903-2F903/1=6D69 2F904-2F904/1=6D78
  2F905-2F905/1=6D85 2F906-2F906/1=23D1E 2F907-2F907/1=6D34 2F908-2F908/1=6E2F 2F909-2F909/1=6E6E
  2F90A-2F90A/1=3D33 2F90B-2F90B/1=6ECB 2F90C-2F90C/1=6EC7 2F90D-2F90D/1=23ED1 2F90E-2F90E/1=6DF9
  2F90F-2F90F/1=6F6E 2F910-2F910/1=23F5E 2F911-2F911/1=23F8E 2F912-2F912/1=6FC6 2F913-2F913/1=7039
  2F914-2F914/1=701E 2F915-2F915/1=701B 2F916-2F916/1=3D96 2F917-2F917/1=704A 2F918-2F918/1=707D
  2F919-2F919/1=7077 2F91A-2F91A/1=70AD 2F91B-2F91B/1=20525 2F91C-2F91C/1=7145 2F91D-2F91D/1=24263
  2F91E-2F91E/1=719C 2F91F-2F91F/1=243AB 2F920-2F920/1=7228 2F921-2F921/1=7235 2F922-2F922/1=7250
  2F923-2F923/1=24608 2F924-2F924/1=7280 2F925-2F925/1=7295 2F926-2F926/1=24735
  2F927-2F927/1=24814 2F928-2F928/1=737A 2F929-2F929/1=738B 2F92A-2F92A/1=3EAC 2F92B-2F92B/1=73A5
  2F92C-2F92C/1=3EB8 2F92D-2F92D/1=3EB8 2F92E-2F92E/1=7447 2F92F-2F92F/1=745C 2F930-2F930/1=7471
  2F931-2F931/1=7485 2F932-2F932/1=74CA 2F933-2F933/1=3F1B 2F934-2F934/1=7524 2F935-2F935/1=24C36
  2F936-2F936/1=753E 2F937-2F937/1=24C92 2F938-2F938/1=7570 2F939-2F939/1=2219F 2F93A-2F93A/1=7610
  2F93B-2F93B/1=24FA1 2F93C-2F93C/1=24FB8 2F93D-2F93D/1=25044 2F93E-2F93E/1=3FFC
  2F93F-2F93F/1=4008 2F940-2F940/1=76F4 2F941-2F941/1=250F3 2F942-2F942/1=250F2
  2F943-2F943/1=25119 2F944-2F944/1=25133 2F945-2F946/1=771E 2F947-2F947/1=771F 2F948-2F948/1=774A
  2F949-2F949/1=4039 2F94A-2F94A/1=778B 2F94B-2F94B/1=4046 2F94C-2F94C/1=4096 2F94D-2F94D/1=2541D
  2F94E-2F94E/1=784E 2F94F-2F94F/1=788C 2F950-2F950/1=78CC 2F951-2F951/1=40E3 2F952-2F952/1=25626
  2F953-2F953/1=7956 2F954-2F954/1=2569A 2F955-2F955/1=256C5 2F956-2F956/1=798F 2F957-2F957/1=79EB
  2F958-2F958/1=412F 2F959-2F959/1=7A40 2F95A-2F95A/1=7A4A 2F95B-2F95B/1=7A4F 2F95C-2F95C/1=2597C
  2F95D-2F95D/1=25AA7 2F95E-2F95E/1=25AA7 2F95F-2F95F/1=7AEE 2F960-2F960/1=4202
  2F961-2F961/1=25BAB 2F962-2F962/1=7BC6 2F963-2F963/1=7BC9 2F964-2F964/1=4227 2F965-2F965/1=25C80
  2F966-2F966/1=7CD2 2F967-2F967/1=42A0 2F968-2F968/1=7CE8 2F969-2F969/1=7CE3 2F96A-2F96A/1=7D00
  2F96B-2F96B/1=25F86 2F96C-2F96C/1=7D63 2F96D-2F96D/1=4301 2F96E-2F96E/1=7DC7 2F96F-2F96F/1=7E02
  2F970-2F970/1=7E45 2F971-2F971/1=4334 2F972-2F972/1=26228 2F973-2F973/1=26247 2F974-2F974/1=4359
  2F975-2F975/1=262D9 2F976-2F976/1=7F7A 2F977-2F977/1=2633E 2F978-2F978/1=7F95 2F979-2F979/1=7FFA
  2F97A-2F97A/1=8005 2F97B-2F97B/1=264DA 2F97C-2F97C/1=26523 2F97D-2F97D/1=8060
  2F97E-2F97E/1=265A8 2F97F-2F97F/1=8070 2F980-2F980/1=2335F 2F981-2F981/1=43D5 2F982-2F982/1=80B2
  2F983-2F983/1=8103 2F984-2F984/1=440B 2F985-2F985/1=813E 2F986-2F986/1=5AB5 2F987-2F987/1=267A7
  2F988-2F988/1=267B5 2F989-2F989/1=23393 2F98A-2F98A/1=2339C 2F98B-2F98B/1=8201
  2F98C-2F98C/1=8204 2F98D-2F98D/1=8F9E 2F98E-2F98E/1=446B 2F98F-2F98F/1=8291 2F990-2F990/1=828B
  2F991-2F991/1=829D 2F992-2F992/1=52B3 2F993-2F993/1=82B1 2F994-2F994/1=82B3 2F995-2F995/1=82BD
  2F996-2F996/1=82E6 2F997-2F997/1=26B3C 2F998-2F998/1=82E5 2F999-2F999/1=831D 2F99A-2F99A/1=8363
  2F99B-2F99B/1=83AD 2F99C-2F99C/1=8323 2F99D-2F99D/1=83BD 2F99E-2F99E/1=83E7 2F99F-2F99F/1=8457
  2F9A0-2F9A0/1=8353 2F9A1-2F9A1/1=83CA 2F9A2-2F9A2/1=83CC 2F9A3-2F9A3/1=83DC 2F9A4-2F9A4/1=26C36
  2F9A5-2F9A5/1=26D6B 2F9A6-2F9A6/1=26CD5 2F9A7-2F9A7/1=452B 2F9A8-2F9A8/1=84F1 2F9A9-2F9A9/1=84F3
  2F9AA-2F9AA/1=8516 2F9AB-2F9AB/1=273CA 2F9AC-2F9AC/1=8564 2F9AD-2F9AD/1=26F2C 2F9AE-2F9AE/1=455D
  2F9AF-2F9AF/1=4561 2F9B0-2F9B0/1=26FB1 2F9B1-2F9B1/1=270D2 2F9B2-2F9B2/1=456B 2F9B3-2F9B3/1=8650
  2F9B4-2F9B4/1=865C 2F9B5-2F9B5/1=8667 2F9B6-2F9B6/1=8669 2F9B7-2F9B7/1=86A9 2F9B8-2F9B8/1=8688
  2F9B9-2F9B9/1=870E 2F9BA-2F9BA/1=86E2 2F9BB-2F9BB/1=8779 2F9BC-2F9BC/1=8728 2F9BD-2F9BD/1=876B
  2F9BE-2F9BE/1=8786 2F9BF-2F9BF/1=45D7 2F9C0-2F9C0/1=87E1 2F9C1-2F9C1/1=8801 2F9C2-2F9C2/1=45F9
  2F9C3-2F9C3/1=8860 2F9C4-2F9C4/1=8863 2F9C5-2F9C5/1=27667 2F9C6-2F9C6/1=88D7 2F9C7-2F9C7/1=88DE
  2F9C8-2F9C8/1=4635 2F9C9-2F9C9/1=88FA 2F9CA-2F9CA/1=34BB 2F9CB-2F9CB/1=278AE 2F9CC-2F9CC/1=27966
  2F9CD-2F9CD/1=46BE 2F9CE-2F9CE/1=46C7 2F9CF-2F9CF/1=8AA0 2F9D0-2F9D0/1=8AED 2F9D1-2F9D1/1=8B8A
  2F9D2-2F9D2/1=8C55 2F9D3-2F9D3/1=27CA8 2F9D4-2F9D4/1=8CAB 2F9D5-2F9D5/1=8CC1 2F9D6-2F9D6/1=8D1B
  2F9D7-2F9D7/1=8D77 2F9D8-2F9D8/1=27F2F 2F9D9-2F9D9/1=20804 2F9DA-2F9DA/1=8DCB 2F9DB-2F9DB/1=8DBC
  2F9DC-2F9DC/1=8DF0 2F9DD-2F9DD/1=208DE 2F9DE-2F9DE/1=8ED4 2F9DF-2F9DF/1=8F38 2F9E0-2F9E0/1=285D2
  2F9E1-2F9E1/1=285ED 2F9E2-2F9E2/1=9094 2F9E3-2F9E3/1=90F1 2F9E4-2F9E4/1=9111 2F9E5-2F9E5/1=2872E
  2F9E6-2F9E6/1=911B 2F9E7-2F9E7/1=9238 2F9E8-2F9E9/1=92D7 2F9EA-2F9EA/1=927C 2F9EB-2F9EB/1=93F9
  2F9EC-2F9EC/1=9415 2F9ED-2F9ED/1=28BFA 2F9EE-2F9EE/1=958B 2F9EF-2F9EF/1=4995 2F9F0-2F9F0/1=95B7
  2F9F1-2F9F1/1=28D77 2F9F2-2F9F2/1=49E6 2F9F3-2F9F3/1=96C3 2F9F4-2F9F4/1=5DB2 2F9F5-2F9F5/1=9723
  2F9F6-2F9F6/1=29145 2F9F7-2F9F7/1=2921A 2F9F8-2F9F8/1=4A6E 2F9F9-2F9F9/1=4A76 2F9FA-2F9FA/1=97E0
  2F9FB-2F9FB/1=2940A 2F9FC-2F9FC/1=4AB2 2F9FD-2F9FD/1=29496 2F9FE-2F9FE/1=980B 2F9FF-2F9FF/1=980B
  2FA00-2FA00/1=9829 2FA01-2FA01/1=295B6 2FA02-2FA02/1=98E2 2FA03-2FA03/1=4B33 2FA04-2FA04/1=9929
  2FA05-2FA05/1=99A7 2FA06-2FA06/1=99C2 2FA07-2FA07/1=99FE 2FA08-2FA08/1=4BCE 2FA09-2FA09/1=29B30
  2FA0A-2FA0A/1=9B12 2FA0B-2FA0B/1=9C40 2FA0C-2FA0C/1=9CFD 2FA0D-2FA0D/1=4CCE 2FA0E-2FA0E/1=4CED
  2FA0F-2FA0F/1=9D67 2FA10-2FA10/1=2A0CE 2FA11-2FA11/1=4CF8 2FA12-2FA12/1=2A105
  2FA13-2FA13/1=2A20E 2FA14-2FA14/1=2A291 2FA15-2FA15/1=9EBB 2FA16-2FA16/1=4D56 2FA17-2FA17/1=9EF9
  2FA18-2FA18/1=9EFE 2FA19-2FA19/1=9F05 2FA1A-2FA1A/1=9F0F 2FA1B-2FA1B/1=9F16 2FA1C-2FA1C/1=9F3B
  2FA1D-2FA1D/1=2A600"

/-- Characters that stand for several letters. -/
def wordRows : List (List Nat) := Text.rows "
  A8=20,308 AF=20,304 B4=20,301 B8=20,327 BC=31,2044,34 BD=31,2044,32 BE=33,2044,34 130=69,307
  132=69,6A 133=69,6A 13F=6C,B7 140=6C,B7 149=2BC,6E 1C4=64,17E 1C5=64,17E 1C6=64,17E 1C7=6C,6A
  1C8=6C,6A 1C9=6C,6A 1CA=6E,6A 1CB=6E,6A 1CC=6E,6A 1F1=64,7A 1F2=64,7A 1F3=64,7A 2D8=20,306
  2D9=20,307 2DA=20,30A 2DB=20,328 2DC=20,303 2DD=20,30B 344=308,301 37A=20,3B9 384=20,301
  385=20,308,301 587=565,582 675=627,674 676=648,674 677=6C7,674 678=64A,674 958=915,93C
  959=916,93C 95A=917,93C 95B=91C,93C 95C=921,93C 95D=922,93C 95E=92B,93C 95F=92F,93C 9DC=9A1,9BC
  9DD=9A2,9BC 9DF=9AF,9BC A33=A32,A3C A36=A38,A3C A59=A16,A3C A5A=A17,A3C A5B=A1C,A3C A5E=A2B,A3C
  B5C=B21,B3C B5D=B22,B3C E33=E4D,E32 EB3=ECD,EB2 EDC=EAB,E99 EDD=EAB,EA1 F43=F42,FB7 F4D=F4C,FB7
  F52=F51,FB7 F57=F56,FB7 F5C=F5B,FB7 F69=F40,FB5 F73=F71,F72 F75=F71,F74 F76=FB2,F80
  F77=FB2,F71,F80 F78=FB3,F80 F79=FB3,F71,F80 F81=F71,F80 F93=F92,FB7 F9D=F9C,FB7 FA2=FA1,FB7
  FA7=FA6,FB7 FAC=FAB,FB7 FB9=F90,FB5 1E9A=61,2BE 1F80=1F00,3B9 1F81=1F01,3B9 1F82=1F02,3B9
  1F83=1F03,3B9 1F84=1F04,3B9 1F85=1F05,3B9 1F86=1F06,3B9 1F87=1F07,3B9 1F88=1F00,3B9
  1F89=1F01,3B9 1F8A=1F02,3B9 1F8B=1F03,3B9 1F8C=1F04,3B9 1F8D=1F05,3B9 1F8E=1F06,3B9
  1F8F=1F07,3B9 1F90=1F20,3B9 1F91=1F21,3B9 1F92=1F22,3B9 1F93=1F23,3B9 1F94=1F24,3B9
  1F95=1F25,3B9 1F96=1F26,3B9 1F97=1F27,3B9 1F98=1F20,3B9 1F99=1F21,3B9 1F9A=1F22,3B9
  1F9B=1F23,3B9 1F9C=1F24,3B9 1F9D=1F25,3B9 1F9E=1F26,3B9 1F9F=1F27,3B9 1FA0=1F60,3B9
  1FA1=1F61,3B9 1FA2=1F62,3B9 1FA3=1F63,3B9 1FA4=1F64,3B9 1FA5=1F65,3B9 1FA6=1F66,3B9
  1FA7=1F67,3B9 1FA8=1F60,3B9 1FA9=1F61,3B9 1FAA=1F62,3B9 1FAB=1F63,3B9 1FAC=1F64,3B9
  1FAD=1F65,3B9 1FAE=1F66,3B9 1FAF=1F67,3B9 1FB2=1F70,3B9 1FB3=3B1,3B9 1FB4=3AC,3B9 1FB7=1FB6,3B9
  1FBC=3B1,3B9 1FBD=20,313 1FBF=20,313 1FC0=20,342 1FC1=20,308,342 1FC2=1F74,3B9 1FC3=3B7,3B9
  1FC4=3AE,3B9 1FC7=1FC6,3B9 1FCC=3B7,3B9 1FCD=20,313,300 1FCE=20,313,301 1FCF=20,313,342
  1FDD=20,314,300 1FDE=20,314,301 1FDF=20,314,342 1FED=20,308,300 1FEE=20,308,301 1FF2=1F7C,3B9
  1FF3=3C9,3B9 1FF4=3CE,3B9 1FF7=1FF6,3B9 1FFC=3C9,3B9 1FFD=20,301 1FFE=20,314 2017=20,333
  2033=2032,2032 2034=2032,2032,2032 2036=2035,2035 2037=2035,2035,2035 203C=21,21 203E=20,305
  2047=3F,3F 2048=3F,21 2049=21,3F 2057=2032,2032,2032,2032 20A8=72,73 2100=61,2F,63 2101=61,2F,73
  2103=B0,63 2105=63,2F,6F 2106=63,2F,75 2109=B0,66 2116=6E,6F 2120=73,6D 2121=74,65,6C 2122=74,6D
  213B=66,61,78 2150=31,2044,37 2151=31,2044,39 2152=31,2044,31,30 2153=31,2044,33 2154=32,2044,33
  2155=31,2044,35 2156=32,2044,35 2157=33,2044,35 2158=34,2044,35 2159=31,2044,36 215A=35,2044,36
  215B=31,2044,38 215C=33,2044,38 215D=35,2044,38 215E=37,2044,38 215F=31,2044 2161=69,69
  2162=69,69,69 2163=69,76 2165=76,69 2166=76,69,69 2167=76,69,69,69 2168=69,78 216A=78,69
  216B=78,69,69 2171=69,69 2172=69,69,69 2173=69,76 2175=76,69 2176=76,69,69 2177=76,69,69,69
  2178=69,78 217A=78,69 217B=78,69,69 2189=30,2044,33 222C=222B,222B 222D=222B,222B,222B
  222F=222E,222E 2230=222E,222E,222E 2469=31,30 246A=31,31 246B=31,32 246C=31,33 246D=31,34
  246E=31,35 246F=31,36 2470=31,37 2471=31,38 2472=31,39 2473=32,30 2474=28,31,29 2475=28,32,29
  2476=28,33,29 2477=28,34,29 2478=28,35,29 2479=28,36,29 247A=28,37,29 247B=28,38,29
  247C=28,39,29 247D=28,31,30,29 247E=28,31,31,29 247F=28,31,32,29 2480=28,31,33,29
  2481=28,31,34,29 2482=28,31,35,29 2483=28,31,36,29 2484=28,31,37,29 2485=28,31,38,29
  2486=28,31,39,29 2487=28,32,30,29 249C=28,61,29 249D=28,62,29 249E=28,63,29 249F=28,64,29
  24A0=28,65,29 24A1=28,66,29 24A2=28,67,29 24A3=28,68,29 24A4=28,69,29 24A5=28,6A,29
  24A6=28,6B,29 24A7=28,6C,29 24A8=28,6D,29 24A9=28,6E,29 24AA=28,6F,29 24AB=28,70,29
  24AC=28,71,29 24AD=28,72,29 24AE=28,73,29 24AF=28,74,29 24B0=28,75,29 24B1=28,76,29
  24B2=28,77,29 24B3=28,78,29 24B4=28,79,29 24B5=28,7A,29 2A0C=222B,222B,222B,222B 2A74=3A,3A,3D
  2A75=3D,3D 2A76=3D,3D,3D 2ADC=2ADD,338 309B=20,3099 309C=20,309A 309F=3088,308A 30FF=30B3,30C8
  3200=28,1100,29 3201=28,1102,29 3202=28,1103,29 3203=28,1105,29 3204=28,1106,29 3205=28,1107,29
  3206=28,1109,29 3207=28,110B,29 3208=28,110C,29 3209=28,110E,29 320A=28,110F,29 320B=28,1110,29
  320C=28,1111,29 320D=28,1112,29 320E=28,AC00,29 320F=28,B098,29 3210=28,B2E4,29 3211=28,B77C,29
  3212=28,B9C8,29 3213=28,BC14,29 3214=28,C0AC,29 3215=28,C544,29 3216=28,C790,29 3217=28,CC28,29
  3218=28,CE74,29 3219=28,D0C0,29 321A=28,D30C,29 321B=28,D558,29 321C=28,C8FC,29
  321D=28,C624,C804,29 321E=28,C624,D6C4,29 3220=28,4E00,29 3221=28,4E8C,29 3222=28,4E09,29
  3223=28,56DB,29 3224=28,4E94,29 3225=28,516D,29 3226=28,4E03,29 3227=28,516B,29 3228=28,4E5D,29
  3229=28,5341,29 322A=28,6708,29 322B=28,706B,29 322C=28,6C34,29 322D=28,6728,29 322E=28,91D1,29
  322F=28,571F,29 3230=28,65E5,29 3231=28,682A,29 3232=28,6709,29 3233=28,793E,29 3234=28,540D,29
  3235=28,7279,29 3236=28,8CA1,29 3237=28,795D,29 3238=28,52B4,29 3239=28,4EE3,29 323A=28,547C,29
  323B=28,5B66,29 323C=28,76E3,29 323D=28,4F01,29 323E=28,8CC7,29 323F=28,5354,29 3240=28,796D,29
  3241=28,4F11,29 3242=28,81EA,29 3243=28,81F3,29 3250=70,74,65 3251=32,31 3252=32,32 3253=32,33
  3254=32,34 3255=32,35 3256=32,36 3257=32,37 3258=32,38 3259=32,39 325A=33,30 325B=33,31
  325C=33,32 325D=33,33 325E=33,34 325F=33,35 327C=CC38,ACE0 327D=C8FC,C758 32B1=33,36 32B2=33,37
  32B3=33,38 32B4=33,39 32B5=34,30 32B6=34,31 32B7=34,32 32B8=34,33 32B9=34,34 32BA=34,35
  32BB=34,36 32BC=34,37 32BD=34,38 32BE=34,39 32BF=35,30 32C0=31,6708 32C1=32,6708 32C2=33,6708
  32C3=34,6708 32C4=35,6708 32C5=36,6708 32C6=37,6708 32C7=38,6708 32C8=39,6708 32C9=31,30,6708
  32CA=31,31,6708 32CB=31,32,6708 32CC=68,67 32CD=65,72,67 32CE=65,76 32CF=6C,74,64 32FF=4EE4,548C
  3300=30A2,30D1,30FC,30C8 3301=30A2,30EB,30D5,30A1 3302=30A2,30F3,30DA,30A2 3303=30A2,30FC,30EB
  3304=30A4,30CB,30F3,30B0 3305=30A4,30F3,30C1 3306=30A6,30A9,30F3 3307=30A8,30B9,30AF,30FC,30C9
  3308=30A8,30FC,30AB,30FC 3309=30AA,30F3,30B9 330A=30AA,30FC,30E0 330B=30AB,30A4,30EA
  330C=30AB,30E9,30C3,30C8 330D=30AB,30ED,30EA,30FC 330E=30AC,30ED,30F3 330F=30AC,30F3,30DE
  3310=30AE,30AC 3311=30AE,30CB,30FC 3312=30AD,30E5,30EA,30FC 3313=30AE,30EB,30C0,30FC
  3314=30AD,30ED 3315=30AD,30ED,30B0,30E9,30E0 3316=30AD,30ED,30E1,30FC,30C8,30EB
  3317=30AD,30ED,30EF,30C3,30C8 3318=30B0,30E9,30E0 3319=30B0,30E9,30E0,30C8,30F3
  331A=30AF,30EB,30BC,30A4,30ED 331B=30AF,30ED,30FC,30CD 331C=30B1,30FC,30B9 331D=30B3,30EB,30CA
  331E=30B3,30FC,30DD 331F=30B5,30A4,30AF,30EB 3320=30B5,30F3,30C1,30FC,30E0
  3321=30B7,30EA,30F3,30B0 3322=30BB,30F3,30C1 3323=30BB,30F3,30C8 3324=30C0,30FC,30B9
  3325=30C7,30B7 3326=30C9,30EB 3327=30C8,30F3 3328=30CA,30CE 3329=30CE,30C3,30C8
  332A=30CF,30A4,30C4 332B=30D1,30FC,30BB,30F3,30C8 332C=30D1,30FC,30C4 332D=30D0,30FC,30EC,30EB
  332E=30D4,30A2,30B9,30C8,30EB 332F=30D4,30AF,30EB 3330=30D4,30B3 3331=30D3,30EB
  3332=30D5,30A1,30E9,30C3,30C9 3333=30D5,30A3,30FC,30C8 3334=30D6,30C3,30B7,30A7,30EB
  3335=30D5,30E9,30F3 3336=30D8,30AF,30BF,30FC,30EB 3337=30DA,30BD 3338=30DA,30CB,30D2
  3339=30D8,30EB,30C4 333A=30DA,30F3,30B9 333B=30DA,30FC,30B8 333C=30D9,30FC,30BF
  333D=30DD,30A4,30F3,30C8 333E=30DC,30EB,30C8 333F=30DB,30F3 3340=30DD,30F3,30C9
  3341=30DB,30FC,30EB 3342=30DB,30FC,30F3 3343=30DE,30A4,30AF,30ED 3344=30DE,30A4,30EB
  3345=30DE,30C3,30CF 3346=30DE,30EB,30AF 3347=30DE,30F3,30B7,30E7,30F3 3348=30DF,30AF,30ED,30F3
  3349=30DF,30EA 334A=30DF,30EA,30D0,30FC,30EB 334B=30E1,30AC 334C=30E1,30AC,30C8,30F3
  334D=30E1,30FC,30C8,30EB 334E=30E4,30FC,30C9 334F=30E4,30FC,30EB 3350=30E6,30A2,30F3
  3351=30EA,30C3,30C8,30EB 3352=30EA,30E9 3353=30EB,30D4,30FC 3354=30EB,30FC,30D6,30EB
  3355=30EC,30E0 3356=30EC,30F3,30C8,30B2,30F3 3357=30EF,30C3,30C8 3358=30,70B9 3359=31,70B9
  335A=32,70B9 335B=33,70B9 335C=34,70B9 335D=35,70B9 335E=36,70B9 335F=37,70B9 3360=38,70B9
  3361=39,70B9 3362=31,30,70B9 3363=31,31,70B9 3364=31,32,70B9 3365=31,33,70B9 3366=31,34,70B9
  3367=31,35,70B9 3368=31,36,70B9 3369=31,37,70B9 336A=31,38,70B9 336B=31,39,70B9 336C=32,30,70B9
  336D=32,31,70B9 336E=32,32,70B9 336F=32,33,70B9 3370=32,34,70B9 3371=68,70,61 3372=64,61
  3373=61,75 3374=62,61,72 3375=6F,76 3376=70,63 3377=64,6D 3378=64,6D,32 3379=64,6D,33 337A=69,75
  337B=5E73,6210 337C=662D,548C 337D=5927,6B63 337E=660E,6CBB 337F=682A,5F0F,4F1A,793E 3380=70,61
  3381=6E,61 3382=3BC,61 3383=6D,61 3384=6B,61 3385=6B,62 3386=6D,62 3387=67,62 3388=63,61,6C
  3389=6B,63,61,6C 338A=70,66 338B=6E,66 338C=3BC,66 338D=3BC,67 338E=6D,67 338F=6B,67 3390=68,7A
  3391=6B,68,7A 3392=6D,68,7A 3393=67,68,7A 3394=74,68,7A 3395=3BC,6C 3396=6D,6C 3397=64,6C
  3398=6B,6C 3399=66,6D 339A=6E,6D 339B=3BC,6D 339C=6D,6D 339D=63,6D 339E=6B,6D 339F=6D,6D,32
  33A0=63,6D,32 33A1=6D,32 33A2=6B,6D,32 33A3=6D,6D,33 33A4=63,6D,33 33A5=6D,33 33A6=6B,6D,33
  33A7=6D,2215,73 33A8=6D,2215,73,32 33A9=70,61 33AA=6B,70,61 33AB=6D,70,61 33AC=67,70,61
  33AD=72,61,64 33AE=72,61,64,2215,73 33AF=72,61,64,2215,73,32 33B0=70,73 33B1=6E,73 33B2=3BC,73
  33B3=6D,73 33B4=70,76 33B5=6E,76 33B6=3BC,76 33B7=6D,76 33B8=6B,76 33B9=6D,76 33BA=70,77
  33BB=6E,77 33BC=3BC,77 33BD=6D,77 33BE=6B,77 33BF=6D,77 33C0=6B,3C9 33C1=6D,3C9 33C3=62,71
  33C4=63,63 33C5=63,64 33C6=63,2215,6B,67 33C8=64,62 33C9=67,79 33CA=68,61 33CB=68,70 33CC=69,6E
  33CD=6B,6B 33CE=6B,6D 33CF=6B,74 33D0=6C,6D 33D1=6C,6E 33D2=6C,6F,67 33D3=6C,78 33D4=6D,62
  33D5=6D,69,6C 33D6=6D,6F,6C 33D7=70,68 33D9=70,70,6D 33DA=70,72 33DB=73,72 33DC=73,76 33DD=77,62
  33DE=76,2215,6D 33DF=61,2215,6D 33E0=31,65E5 33E1=32,65E5 33E2=33,65E5 33E3=34,65E5 33E4=35,65E5
  33E5=36,65E5 33E6=37,65E5 33E7=38,65E5 33E8=39,65E5 33E9=31,30,65E5 33EA=31,31,65E5
  33EB=31,32,65E5 33EC=31,33,65E5 33ED=31,34,65E5 33EE=31,35,65E5 33EF=31,36,65E5 33F0=31,37,65E5
  33F1=31,38,65E5 33F2=31,39,65E5 33F3=32,30,65E5 33F4=32,31,65E5 33F5=32,32,65E5 33F6=32,33,65E5
  33F7=32,34,65E5 33F8=32,35,65E5 33F9=32,36,65E5 33FA=32,37,65E5 33FB=32,38,65E5 33FC=32,39,65E5
  33FD=33,30,65E5 33FE=33,31,65E5 33FF=67,61,6C FB00=66,66 FB01=66,69 FB02=66,6C FB03=66,66,69
  FB04=66,66,6C FB05=73,74 FB06=73,74 FB13=574,576 FB14=574,565 FB15=574,56B FB16=57E,576
  FB17=574,56D FB1D=5D9,5B4 FB1F=5F2,5B7 FB2A=5E9,5C1 FB2B=5E9,5C2 FB2C=5E9,5BC,5C1
  FB2D=5E9,5BC,5C2 FB2E=5D0,5B7 FB2F=5D0,5B8 FB30=5D0,5BC FB31=5D1,5BC FB32=5D2,5BC FB33=5D3,5BC
  FB34=5D4,5BC FB35=5D5,5BC FB36=5D6,5BC FB38=5D8,5BC FB39=5D9,5BC FB3A=5DA,5BC FB3B=5DB,5BC
  FB3C=5DC,5BC FB3E=5DE,5BC FB40=5E0,5BC FB41=5E1,5BC FB43=5E3,5BC FB44=5E4,5BC FB46=5E6,5BC
  FB47=5E7,5BC FB48=5E8,5BC FB49=5E9,5BC FB4A=5EA,5BC FB4B=5D5,5B9 FB4C=5D1,5BF FB4D=5DB,5BF
  FB4E=5E4,5BF FB4F=5D0,5DC FBDD=6C7,674 FBEA=626,627 FBEB=626,627 FBEC=626,6D5 FBED=626,6D5
  FBEE=626,648 FBEF=626,648 FBF0=626,6C7 FBF1=626,6C7 FBF2=626,6C6 FBF3=626,6C6 FBF4=626,6C8
  FBF5=626,6C8 FBF6=626,6D0 FBF7=626,6D0 FBF8=626,6D0 FBF9=626,649 FBFA=626,649 FBFB=626,649
  FC00=626,62C FC01=626,62D FC02=626,645 FC03=626,649 FC04=626,64A FC05=628,62C FC06=628,62D
  FC07=628,62E FC08=628,645 FC09=628,649 FC0A=628,64A FC0B=62A,62C FC0C=62A,62D FC0D=62A,62E
  FC0E=62A,645 FC0F=62A,649 FC10=62A,64A FC11=62B,62C FC12=62B,645 FC13=62B,649 FC14=62B,64A
  FC15=62C,62D FC16=62C,645 FC17=62D,62C FC18=62D,645 FC19=62E,62C FC1A=62E,62D FC1B=62E,645
  FC1C=633,62C FC1D=633,62D FC1E=633,62E FC1F=633,645 FC20=635,62D FC21=635,645 FC22=636,62C
  FC23=636,62D FC24=636,62E FC25=636,645 FC26=637,62D FC27=637,645 FC28=638,645 FC29=639,62C
  FC2A=639,645 FC2B=63A,62C FC2C=63A,645 FC2D=641,62C FC2E=641,62D FC2F=641,62E FC30=641,645
  FC31=641,649 FC32=641,64A FC33=642,62D FC34=642,645 FC35=642,649 FC36=642,64A FC37=643,627
  FC38=643,62C FC39=643,62D FC3A=643,62E FC3B=643,644 FC3C=643,645 FC3D=643,649 FC3E=643,64A
  FC3F=644,62C FC40=644,62D FC41=644,62E FC42=644,645 FC43=644,649 FC44=644,64A FC45=645,62C
  FC46=645,62D FC47=645,62E FC48=645,645 FC49=645,649 FC4A=645,64A FC4B=646,62C FC4C=646,62D
  FC4D=646,62E FC4E=646,645 FC4F=646,649 FC50=646,64A FC51=647,62C FC52=647,645 FC53=647,649
  FC54=647,64A FC55=64A,62C FC56=64A,62D FC57=64A,62E FC58=64A,645 FC59=64A,649 FC5A=64A,64A
  FC5B=630,670 FC5C=631,670 FC5D=649,670 FC5E=20,64C,651 FC5F=20,64D,651 FC60=20,64E,651
  FC61=20,64F,651 FC62=20,650,651 FC63=20,651,670 FC64=626,631 FC65=626,632 FC66=626,645
  FC67=626,646 FC68=626,649 FC69=626,64A FC6A=628,631 FC6B=628,632 FC6C=628,645 FC6D=628,646
  FC6E=628,649 FC6F=628,64A FC70=62A,631 FC71=62A,632 FC72=62A,645 FC73=62A,646 FC74=62A,649
  FC75=62A,64A FC76=62B,631 FC77=62B,632 FC78=62B,645 FC79=62B,646 FC7A=62B,649 FC7B=62B,64A
  FC7C=641,649 FC7D=641,64A FC7E=642,649 FC7F=642,64A FC80=643,627 FC81=643,644 FC82=643,645
  FC83=643,649 FC84=643,64A FC85=644,645 FC86=644,649 FC87=644,64A FC88=645,627 FC89=645,645
  FC8A=646,631 FC8B=646,632 FC8C=646,645 FC8D=646,646 FC8E=646,649 FC8F=646,64A FC90=649,670
  FC91=64A,631 FC92=64A,632 FC93=64A,645 FC94=64A,646 FC95=64A,649 FC96=64A,64A FC97=626,62C
  FC98=626,62D FC99=626,62E FC9A=626,645 FC9B=626,647 FC9C=628,62C FC9D=628,62D FC9E=628,62E
  FC9F=628,645 FCA0=628,647 FCA1=62A,62C FCA2=62A,62D FCA3=62A,62E FCA4=62A,645 FCA5=62A,647
  FCA6=62B,645 FCA7=62C,62D FCA8=62C,645 FCA9=62D,62C FCAA=62D,645 FCAB=62E,62C FCAC=62E,645
  FCAD=633,62C FCAE=633,62D FCAF=633,62E FCB0=633,645 FCB1=635,62D FCB2=635,62E FCB3=635,645
  FCB4=636,62C FCB5=636,62D FCB6=636,62E FCB7=636,645 FCB8=637,62D FCB9=638,645 FCBA=639,62C
  FCBB=639,645 FCBC=63A,62C FCBD=63A,645 FCBE=641,62C FCBF=641,62D FCC0=641,62E FCC1=641,645
  FCC2=642,62D FCC3=642,645 FCC4=643,62C FCC5=643,62D FCC6=643,62E FCC7=643,644 FCC8=643,645
  FCC9=644,62C FCCA=644,62D FCCB=644,62E FCCC=644,645 FCCD=644,647 FCCE=645,62C FCCF=645,62D
  FCD0=645,62E FCD1=645,645 FCD2=646,62C FCD3=646,62D FCD4=646,62E FCD5=646,645 FCD6=646,647
  FCD7=647,62C FCD8=647,645 FCD9=647,670 FCDA=64A,62C FCDB=64A,62D FCDC=64A,62E FCDD=64A,645
  FCDE=64A,647 FCDF=626,645 FCE0=626,647 FCE1=628,645 FCE2=628,647 FCE3=62A,645 FCE4=62A,647
  FCE5=62B,645 FCE6=62B,647 FCE7=633,645 FCE8=633,647 FCE9=634,645 FCEA=634,647 FCEB=643,644
  FCEC=643,645 FCED=644,645 FCEE=646,645 FCEF=646,647 FCF0=64A,645 FCF1=64A,647 FCF2=640,64E,651
  FCF3=640,64F,651 FCF4=640,650,651 FCF5=637,649 FCF6=637,64A FCF7=639,649 FCF8=639,64A
  FCF9=63A,649 FCFA=63A,64A FCFB=633,649 FCFC=633,64A FCFD=634,649 FCFE=634,64A FCFF=62D,649
  FD00=62D,64A FD01=62C,649 FD02=62C,64A FD03=62E,649 FD04=62E,64A FD05=635,649 FD06=635,64A
  FD07=636,649 FD08=636,64A FD09=634,62C FD0A=634,62D FD0B=634,62E FD0C=634,645 FD0D=634,631
  FD0E=633,631 FD0F=635,631 FD10=636,631 FD11=637,649 FD12=637,64A FD13=639,649 FD14=639,64A
  FD15=63A,649 FD16=63A,64A FD17=633,649 FD18=633,64A FD19=634,649 FD1A=634,64A FD1B=62D,649
  FD1C=62D,64A FD1D=62C,649 FD1E=62C,64A FD1F=62E,649 FD20=62E,64A FD21=635,649 FD22=635,64A
  FD23=636,649 FD24=636,64A FD25=634,62C FD26=634,62D FD27=634,62E FD28=634,645 FD29=634,631
  FD2A=633,631 FD2B=635,631 FD2C=636,631 FD2D=634,62C FD2E=634,62D FD2F=634,62E FD30=634,645
  FD31=633,647 FD32=634,647 FD33=637,645 FD34=633,62C FD35=633,62D FD36=633,62E FD37=634,62C
  FD38=634,62D FD39=634,62E FD3A=637,645 FD3B=638,645 FD3C=627,64B FD3D=627,64B FD50=62A,62C,645
  FD51=62A,62D,62C FD52=62A,62D,62C FD53=62A,62D,645 FD54=62A,62E,645 FD55=62A,645,62C
  FD56=62A,645,62D FD57=62A,645,62E FD58=62C,645,62D FD59=62C,645,62D FD5A=62D,645,64A
  FD5B=62D,645,649 FD5C=633,62D,62C FD5D=633,62C,62D FD5E=633,62C,649 FD5F=633,645,62D
  FD60=633,645,62D FD61=633,645,62C FD62=633,645,645 FD63=633,645,645 FD64=635,62D,62D
  FD65=635,62D,62D FD66=635,645,645 FD67=634,62D,645 FD68=634,62D,645 FD69=634,62C,64A
  FD6A=634,645,62E FD6B=634,645,62E FD6C=634,645,645 FD6D=634,645,645 FD6E=636,62D,649
  FD6F=636,62E,645 FD70=636,62E,645 FD71=637,645,62D FD72=637,645,62D FD73=637,645,645
  FD74=637,645,64A FD75=639,62C,645 FD76=639,645,645 FD77=639,645,645 FD78=639,645,649
  FD79=63A,645,645 FD7A=63A,645,64A FD7B=63A,645,649 FD7C=641,62E,645 FD7D=641,62E,645
  FD7E=642,645,62D FD7F=642,645,645 FD80=644,62D,645 FD81=644,62D,64A FD82=644,62D,649
  FD83=644,62C,62C FD84=644,62C,62C FD85=644,62E,645 FD86=644,62E,645 FD87=644,645,62D
  FD88=644,645,62D FD89=645,62D,62C FD8A=645,62D,645 FD8B=645,62D,64A FD8C=645,62C,62D
  FD8D=645,62C,645 FD8E=645,62E,62C FD8F=645,62E,645 FD92=645,62C,62E FD93=647,645,62C
  FD94=647,645,645 FD95=646,62D,645 FD96=646,62D,649 FD97=646,62C,645 FD98=646,62C,645
  FD99=646,62C,649 FD9A=646,645,64A FD9B=646,645,649 FD9C=64A,645,645 FD9D=64A,645,645
  FD9E=628,62E,64A FD9F=62A,62C,64A FDA0=62A,62C,649 FDA1=62A,62E,64A FDA2=62A,62E,649
  FDA3=62A,645,64A FDA4=62A,645,649 FDA5=62C,645,64A FDA6=62C,62D,649 FDA7=62C,645,649
  FDA8=633,62E,649 FDA9=635,62D,64A FDAA=634,62D,64A FDAB=636,62D,64A FDAC=644,62C,64A
  FDAD=644,645,64A FDAE=64A,62D,64A FDAF=64A,62C,64A FDB0=64A,645,64A FDB1=645,645,64A
  FDB2=642,645,64A FDB3=646,62D,64A FDB4=642,645,62D FDB5=644,62D,645 FDB6=639,645,64A
  FDB7=643,645,64A FDB8=646,62C,62D FDB9=645,62E,64A FDBA=644,62C,645 FDBB=643,645,645
  FDBC=644,62C,645 FDBD=646,62C,62D FDBE=62C,62D,64A FDBF=62D,62C,64A FDC0=645,62C,64A
  FDC1=641,645,64A FDC2=628,62D,64A FDC3=643,645,645 FDC4=639,62C,645 FDC5=635,645,645
  FDC6=633,62E,64A FDC7=646,62C,64A FDF0=635,644,6D2 FDF1=642,644,6D2 FDF2=627,644,644,647
  FDF3=627,643,628,631 FDF4=645,62D,645,62F FDF5=635,644,639,645 FDF6=631,633,648,644
  FDF7=639,644,64A,647 FDF8=648,633,644,645 FDF9=635,644,649
  FDFA=635,644,649,20,627,644,644,647,20,639,644,64A,647,20,648,633,644,645
  FDFB=62C,644,20,62C,644,627,644,647 FDFC=631,6CC,627,644 FE49=20,305 FE4A=20,305 FE4B=20,305
  FE4C=20,305 FE70=20,64B FE71=640,64B FE72=20,64C FE74=20,64D FE76=20,64E FE77=640,64E
  FE78=20,64F FE79=640,64F FE7A=20,650 FE7B=640,650 FE7C=20,651 FE7D=640,651 FE7E=20,652
  FE7F=640,652 FEF5=644,622 FEF6=644,622 FEF7=644,623 FEF8=644,623 FEF9=644,625 FEFA=644,625
  FEFB=644,627 FEFC=644,627 FFE3=20,304 1D15E=1D157,1D165 1D15F=1D158,1D165
  1D160=1D158,1D165,1D16E 1D161=1D158,1D165,1D16F 1D162=1D158,1D165,1D170 1D163=1D158,1D165,1D171
  1D164=1D158,1D165,1D172 1D1BB=1D1B9,1D165 1D1BC=1D1BA,1D165 1D1BD=1D1B9,1D165,1D16E
  1D1BE=1D1BA,1D165,1D16E 1D1BF=1D1B9,1D165,1D16F 1D1C0=1D1BA,1D165,1D16F 1F101=30,2C 1F102=31,2C
  1F103=32,2C 1F104=33,2C 1F105=34,2C 1F106=35,2C 1F107=36,2C 1F108=37,2C 1F109=38,2C 1F10A=39,2C
  1F110=28,61,29 1F111=28,62,29 1F112=28,63,29 1F113=28,64,29 1F114=28,65,29 1F115=28,66,29
  1F116=28,67,29 1F117=28,68,29 1F118=28,69,29 1F119=28,6A,29 1F11A=28,6B,29 1F11B=28,6C,29
  1F11C=28,6D,29 1F11D=28,6E,29 1F11E=28,6F,29 1F11F=28,70,29 1F120=28,71,29 1F121=28,72,29
  1F122=28,73,29 1F123=28,74,29 1F124=28,75,29 1F125=28,76,29 1F126=28,77,29 1F127=28,78,29
  1F128=28,79,29 1F129=28,7A,29 1F12A=3014,73,3015 1F12D=63,64 1F12E=77,7A 1F14A=68,76 1F14B=6D,76
  1F14C=73,64 1F14D=73,73 1F14E=70,70,76 1F14F=77,63 1F16A=6D,63 1F16B=6D,64 1F16C=6D,72
  1F190=64,6A 1F200=307B,304B 1F201=30B3,30B3 1F240=3014,672C,3015 1F241=3014,4E09,3015
  1F242=3014,4E8C,3015 1F243=3014,5B89,3015 1F244=3014,70B9,3015 1F245=3014,6253,3015
  1F246=3014,76D7,3015 1F247=3014,52DD,3015 1F248=3014,6557,3015"

/-- The letters that a known character outside ASCII stands for, if it is no letter itself. -/
def replacement? (n : Nat) : Option (List Nat) :=
  (wordRows.findSome? fun row => match row with
    | c :: letters => if c = n then some letters else none
    | [] => none) <|>
  (Text.image? runRows n).map fun letter => [letter]

/-- The letters that a character stands for; `none` if no domain has it. -/
def letters? (c : Char) : Option (List Char) :=
  if c.toNat < 0x80 then some [c.toLower]
  else if Text.inRanges ignoredRanges c.toNat then some []
  else if Text.inRanges knownRanges c.toNat then
    match replacement? c.toNat with
    | some letters => some (letters.map Char.ofNat)
    | none => some [c]
  else none

/-- The letters that a text stands for, composed. -/
def lettersOf? (cs : List Char) : Option (List Char) :=
  (cs.mapM letters?).map fun parts => Text.compose parts.flatten

end Rollout.Url.Domain
