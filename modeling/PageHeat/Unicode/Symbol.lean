import PageHeat.Unicode.Category

/-
  White space, punctuation and symbols, after the Unicode
  character database, version 16.

  Key definitions include:
    * `Unicode.whiteSpace`
    * `Unicode.dash`
    * `Unicode.quotationMark`
    * `Unicode.terminalPunctuation`
    * `Unicode.patternSyntax`
    * `Unicode.mathematical`
-/

------------------------------------------------------------
-- Tables
------------------------------------------------------------

namespace PageHeat

namespace Unicode

def whiteSpace : RangeSet :=
  RangeSet.ofHex
    "9-D 20 85 A0 1680 2000-200A 2028-2029 202F 205F 3000"

def dash : RangeSet :=
  RangeSet.ofHex
    "2D 58A 5BE 1400 1806 2010-2015 2053 207B 208B 2212 2E17 2E1A
     2E3A-2E3B 2E40 2E5D 301C 3030 30A0 FE31-FE32 FE58 FE63 FF0D
     10D6E 10EAD"

def hyphen : RangeSet :=
  RangeSet.ofHex
    "2D AD 58A 1806 2010-2011 2E17 30FB FE63 FF0D FF65"

def quotationMark : RangeSet :=
  RangeSet.ofHex
    "22 27 AB BB 2018-201F 2039-203A 2E42 300C-300F 301D-301F
     FE41-FE44 FF02 FF07 FF62-FF63"

def terminalPunctuation : RangeSet :=
  RangeSet.ofHex
    "21 2C 2E 3A-3B 3F 37E 387 589 5C3 60C 61B 61D-61F 6D4 700-70A
     70C 7F8-7F9 830-835 837-83E 85E 964-965 E5A-E5B F08 F0D-F12
     104A-104B 1361-1368 166E 16EB-16ED 1735-1736 17D4-17D6 17DA
     1802-1805 1808-1809 1944-1945 1AA8-1AAB 1B4E-1B4F 1B5A-1B5B
     1B5D-1B5F 1B7D-1B7F 1C3B-1C3F 1C7E-1C7F 2024 203C-203D
     2047-2049 2CF9-2CFB 2E2E 2E3C 2E41 2E4C 2E4E-2E4F 2E53-2E54
     3001-3002 A4FE-A4FF A60D-A60F A6F3-A6F7 A876-A877 A8CE-A8CF
     A92F A9C7-A9C9 AA5D-AA5F AADF AAF0-AAF1 ABEB FE12 FE15-FE16
     FE50-FE52 FE54-FE57 FF01 FF0C FF0E FF1A-FF1B FF1F FF61 FF64
     1039F 103D0 10857 1091F 10A56-10A57 10AF0-10AF5 10B3A-10B3F
     10B99-10B9C 10F55-10F59 10F86-10F89 11047-1104D 110BE-110C1
     11141-11143 111C5-111C6 111CD 111DE-111DF 11238-1123C 112A9
     113D4-113D5 1144B-1144D 1145A-1145B 115C2-115C5 115C9-115D7
     11641-11642 1173C-1173E 11944 11946 11A42-11A43 11A9B-11A9C
     11AA1-11AA2 11C41-11C43 11C71 11EF7-11EF8 11F43-11F44
     12470-12474 16A6E-16A6F 16AF5 16B37-16B39 16B44 16D6E-16D6F
     16E97-16E98 1BC9F 1DA87-1DA8A"

def sentenceTerminal : RangeSet :=
  RangeSet.ofHex
    "21 2E 3F 589 61D-61F 6D4 700-702 7F9 837 839 83D-83E 964-965
     104A-104B 1362 1367-1368 166E 1735-1736 17D4-17D5 1803 1809
     1944-1945 1AA8-1AAB 1B4E-1B4F 1B5A-1B5B 1B5E-1B5F 1B7D-1B7F
     1C3B-1C3C 1C7E-1C7F 2024 203C-203D 2047-2049 2CF9-2CFB 2E2E
     2E3C 2E53-2E54 3002 A4FF A60E-A60F A6F3 A6F7 A876-A877
     A8CE-A8CF A92F A9C8-A9C9 AA5D-AA5F AAF0-AAF1 ABEB FE12
     FE15-FE16 FE52 FE56-FE57 FF01 FF0E FF1F FF61 10A56-10A57
     10F55-10F59 10F86-10F89 11047-11048 110BE-110C1 11141-11143
     111C5-111C6 111CD 111DE-111DF 11238-11239 1123B-1123C 112A9
     113D4-113D5 1144B-1144C 115C2-115C3 115C9-115D7 11641-11642
     1173C-1173E 11944 11946 11A42-11A43 11A9B-11A9C 11C41-11C42
     11EF7-11EF8 11F43-11F44 16A6E-16A6F 16AF5 16B37-16B38 16B44
     16D6E-16D6F 16E98 1BC9F 1DA88"

def patternSyntax : RangeSet :=
  RangeSet.ofHex
    "21-2F 3A-40 5B-5E 60 7B-7E A1-A7 A9 AB-AC AE B0-B1 B6 BB BF
     D7 F7 2010-2027 2030-203E 2041-2053 2055-205E 2190-245F
     2500-2775 2794-2BFF 2E00-2E7F 3001-3003 3008-3020 3030
     FD3E-FD3F FE45-FE46"

def patternWhiteSpace : RangeSet :=
  RangeSet.ofHex
    "9-D 20 85 200E-200F 2028-2029"

def bidiMirrored : RangeSet :=
  RangeSet.ofHex
    "28-29 3C 3E 5B 5D 7B 7D AB BB F3A-F3D 169B-169C 2039-203A
     2045-2046 207D-207E 208D-208E 2140 2201-2204 2208-220D 2211
     2215-2216 221A-221D 221F-2222 2224 2226 222B-2233 2239
     223B-224C 2252-2255 225F-2260 2262 2264-226B 226D-228C
     228F-2292 2298 22A2-22A3 22A6-22B8 22BE-22BF 22C9-22CD
     22D0-22D1 22D6-22ED 22F0-22FF 2308-230B 2320-2321 2329-232A
     2768-2775 27C0 27C3-27C6 27C8-27C9 27CB-27CD 27D3-27D6
     27DC-27DE 27E2-27EF 2983-2998 299B-29A0 29A2-29AF 29B8
     29C0-29C5 29C9 29CE-29D2 29D4-29D5 29D8-29DC 29E1 29E3-29E5
     29E8-29E9 29F4-29F9 29FC-29FD 2A0A-2A1C 2A1E-2A21 2A24 2A26
     2A29 2A2B-2A2E 2A34-2A35 2A3C-2A3E 2A57-2A58 2A64-2A65
     2A6A-2A6D 2A6F-2A70 2A73-2A74 2A79-2AA3 2AA6-2AAD 2AAF-2AD6
     2ADC 2ADE 2AE2-2AE6 2AEC-2AEE 2AF3 2AF7-2AFB 2AFD 2BFE
     2E02-2E05 2E09-2E0A 2E0C-2E0D 2E1C-2E1D 2E20-2E29 2E55-2E5C
     3008-3011 3014-301B FE59-FE5E FE64-FE65 FF08-FF09 FF1C FF1E
     FF3B FF3D FF5B FF5D FF5F-FF60 FF62-FF63 1D6DB 1D715 1D74F
     1D789 1D7C3"

def otherMath : RangeSet :=
  RangeSet.ofHex
    "5E 3D0-3D2 3D5 3F0-3F1 3F4-3F5 2016 2032-2034 2040 2061-2064
     207D-207E 208D-208E 20D0-20DC 20E1 20E5-20E6 20EB-20EF 2102
     2107 210A-2113 2115 2119-211D 2124 2128-2129 212C-212D
     212F-2131 2133-2138 213C-213F 2145-2149 2195-2199 219C-219F
     21A1-21A2 21A4-21A5 21A7 21A9-21AD 21B0-21B1 21B6-21B7
     21BC-21CD 21D0-21D1 21D3 21D5-21DB 21DD 21E4-21E5 2308-230B
     23B4-23B5 23B7 23D0 23E2 25A0-25A1 25AE-25B6 25BC-25C0
     25C6-25C7 25CA-25CB 25CF-25D3 25E2 25E4 25E7-25EC 2605-2606
     2640 2642 2660-2663 266D-266E 27C5-27C6 27E6-27EF 2983-2998
     29D8-29DB 29FC-29FD FE61 FE63 FE68 FF3C FF3E 1D400-1D454
     1D456-1D49C 1D49E-1D49F 1D4A2 1D4A5-1D4A6 1D4A9-1D4AC
     1D4AE-1D4B9 1D4BB 1D4BD-1D4C3 1D4C5-1D505 1D507-1D50A
     1D50D-1D514 1D516-1D51C 1D51E-1D539 1D53B-1D53E 1D540-1D544
     1D546 1D54A-1D550 1D552-1D6A5 1D6A8-1D6C0 1D6C2-1D6DA
     1D6DC-1D6FA 1D6FC-1D714 1D716-1D734 1D736-1D74E 1D750-1D76E
     1D770-1D788 1D78A-1D7A8 1D7AA-1D7C2 1D7C4-1D7CB 1D7CE-1D7FF
     1EE00-1EE03 1EE05-1EE1F 1EE21-1EE22 1EE24 1EE27 1EE29-1EE32
     1EE34-1EE37 1EE39 1EE3B 1EE42 1EE47 1EE49 1EE4B 1EE4D-1EE4F
     1EE51-1EE52 1EE54 1EE57 1EE59 1EE5B 1EE5D 1EE5F 1EE61-1EE62
     1EE64 1EE67-1EE6A 1EE6C-1EE72 1EE74-1EE77 1EE79-1EE7C 1EE7E
     1EE80-1EE89 1EE8B-1EE9B 1EEA1-1EEA3 1EEA5-1EEA9 1EEAB-1EEBB"

/- The property `Math`. -/
def mathematical : RangeSet :=
  RangeSet.union (categoryMembers "sm") otherMath

end Unicode

end PageHeat
