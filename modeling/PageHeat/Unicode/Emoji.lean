import PageHeat.Unicode.RangeSet

/-
  Emoji and their parts, after the Unicode character
  database, version 16.

  Key definitions include:
    * `Unicode.emoji`
    * `Unicode.emojiModifier`
    * `Unicode.extendedPictographic`
-/

------------------------------------------------------------
-- Tables
------------------------------------------------------------

namespace PageHeat

namespace Unicode

def emoji : RangeSet :=
  RangeSet.ofHex
    "23 2A 30-39 A9 AE 203C 2049 2122 2139 2194-2199 21A9-21AA
     231A-231B 2328 23CF 23E9-23F3 23F8-23FA 24C2 25AA-25AB 25B6
     25C0 25FB-25FE 2600-2604 260E 2611 2614-2615 2618 261D 2620
     2622-2623 2626 262A 262E-262F 2638-263A 2640 2642 2648-2653
     265F-2660 2663 2665-2666 2668 267B 267E-267F 2692-2697 2699
     269B-269C 26A0-26A1 26A7 26AA-26AB 26B0-26B1 26BD-26BE
     26C4-26C5 26C8 26CE-26CF 26D1 26D3-26D4 26E9-26EA 26F0-26F5
     26F7-26FA 26FD 2702 2705 2708-270D 270F 2712 2714 2716 271D
     2721 2728 2733-2734 2744 2747 274C 274E 2753-2755 2757
     2763-2764 2795-2797 27A1 27B0 27BF 2934-2935 2B05-2B07
     2B1B-2B1C 2B50 2B55 3030 303D 3297 3299 1F004 1F0CF
     1F170-1F171 1F17E-1F17F 1F18E 1F191-1F19A 1F1E6-1F1FF
     1F201-1F202 1F21A 1F22F 1F232-1F23A 1F250-1F251 1F300-1F321
     1F324-1F393 1F396-1F397 1F399-1F39B 1F39E-1F3F0 1F3F3-1F3F5
     1F3F7-1F4FD 1F4FF-1F53D 1F549-1F54E 1F550-1F567 1F56F-1F570
     1F573-1F57A 1F587 1F58A-1F58D 1F590 1F595-1F596 1F5A4-1F5A5
     1F5A8 1F5B1-1F5B2 1F5BC 1F5C2-1F5C4 1F5D1-1F5D3 1F5DC-1F5DE
     1F5E1 1F5E3 1F5E8 1F5EF 1F5F3 1F5FA-1F64F 1F680-1F6C5
     1F6CB-1F6D2 1F6D5-1F6D7 1F6DC-1F6E5 1F6E9 1F6EB-1F6EC 1F6F0
     1F6F3-1F6FC 1F7E0-1F7EB 1F7F0 1F90C-1F93A 1F93C-1F945
     1F947-1F9FF 1FA70-1FA7C 1FA80-1FA89 1FA8F-1FAC6 1FACE-1FADC
     1FADF-1FAE9 1FAF0-1FAF8"

def emojiComponent : RangeSet :=
  RangeSet.ofHex
    "23 2A 30-39 200D 20E3 FE0F 1F1E6-1F1FF 1F3FB-1F3FF
     1F9B0-1F9B3 E0020-E007F"

def emojiModifier : RangeSet :=
  RangeSet.ofHex
    "1F3FB-1F3FF"

def emojiModifierBase : RangeSet :=
  RangeSet.ofHex
    "261D 26F9 270A-270D 1F385 1F3C2-1F3C4 1F3C7 1F3CA-1F3CC
     1F442-1F443 1F446-1F450 1F466-1F478 1F47C 1F481-1F483
     1F485-1F487 1F48F 1F491 1F4AA 1F574-1F575 1F57A 1F590
     1F595-1F596 1F645-1F647 1F64B-1F64F 1F6A3 1F6B4-1F6B6 1F6C0
     1F6CC 1F90C 1F90F 1F918-1F91F 1F926 1F930-1F939 1F93C-1F93E
     1F977 1F9B5-1F9B6 1F9B8-1F9B9 1F9BB 1F9CD-1F9CF 1F9D1-1F9DD
     1FAC3-1FAC5 1FAF0-1FAF8"

def emojiPresentation : RangeSet :=
  RangeSet.ofHex
    "231A-231B 23E9-23EC 23F0 23F3 25FD-25FE 2614-2615 2648-2653
     267F 2693 26A1 26AA-26AB 26BD-26BE 26C4-26C5 26CE 26D4 26EA
     26F2-26F3 26F5 26FA 26FD 2705 270A-270B 2728 274C 274E
     2753-2755 2757 2795-2797 27B0 27BF 2B1B-2B1C 2B50 2B55 1F004
     1F0CF 1F18E 1F191-1F19A 1F1E6-1F1FF 1F201 1F21A 1F22F
     1F232-1F236 1F238-1F23A 1F250-1F251 1F300-1F320 1F32D-1F335
     1F337-1F37C 1F37E-1F393 1F3A0-1F3CA 1F3CF-1F3D3 1F3E0-1F3F0
     1F3F4 1F3F8-1F43E 1F440 1F442-1F4FC 1F4FF-1F53D 1F54B-1F54E
     1F550-1F567 1F57A 1F595-1F596 1F5A4 1F5FB-1F64F 1F680-1F6C5
     1F6CC 1F6D0-1F6D2 1F6D5-1F6D7 1F6DC-1F6DF 1F6EB-1F6EC
     1F6F4-1F6FC 1F7E0-1F7EB 1F7F0 1F90C-1F93A 1F93C-1F945
     1F947-1F9FF 1FA70-1FA7C 1FA80-1FA89 1FA8F-1FAC6 1FACE-1FADC
     1FADF-1FAE9 1FAF0-1FAF8"

def extendedPictographic : RangeSet :=
  RangeSet.ofHex
    "A9 AE 203C 2049 2122 2139 2194-2199 21A9-21AA 231A-231B 2328
     2388 23CF 23E9-23F3 23F8-23FA 24C2 25AA-25AB 25B6 25C0
     25FB-25FE 2600-2605 2607-2612 2614-2685 2690-2705 2708-2712
     2714 2716 271D 2721 2728 2733-2734 2744 2747 274C 274E
     2753-2755 2757 2763-2767 2795-2797 27A1 27B0 27BF 2934-2935
     2B05-2B07 2B1B-2B1C 2B50 2B55 3030 303D 3297 3299 1F000-1F0FF
     1F10D-1F10F 1F12F 1F16C-1F171 1F17E-1F17F 1F18E 1F191-1F19A
     1F1AD-1F1E5 1F201-1F20F 1F21A 1F22F 1F232-1F23A 1F23C-1F23F
     1F249-1F3FA 1F400-1F53D 1F546-1F64F 1F680-1F6FF 1F774-1F77F
     1F7D5-1F7FF 1F80C-1F80F 1F848-1F84F 1F85A-1F85F 1F888-1F88F
     1F8AE-1F8FF 1F90C-1F93A 1F93C-1F945 1F947-1FAFF 1FC00-1FFFD"

def regionalIndicator : RangeSet :=
  RangeSet.ofHex
    "1F1E6-1F1FF"

end Unicode

end PageHeat
