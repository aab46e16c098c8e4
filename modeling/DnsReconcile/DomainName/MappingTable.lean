/-
# Characters in domain names

The data behind the mapping of characters in domain names: which characters no name
contains, which ones are passed over, and which ones stand for other text. A letter
that stands for its lower case is listed only if its lower case is irregular. The
mapping itself is said in the module that uses the tables.
-/

namespace DnsReconcile.DomainName

/-- Successive code points from `first` on, with what they stand for in order. -/
structure ImageRun where
  first : Nat
  images : String
deriving Repr, DecidableEq

/-- Code points of characters that no name contains: they are not assigned, they are
no part of a text, or they stand for text with a character that divides an address. -/
def refusedRanges : List (Nat × Nat) := [
  (0x80, 0xA0), (0xA8, 0xA8), (0xAF, 0xAF), (0xB4, 0xB4), (0xB8, 0xB8), (0x2D8, 0x2DD),
  (0x378, 0x37A), (0x380, 0x385), (0x38B, 0x38B), (0x38D, 0x38D), (0x3A2, 0x3A2), (0x530, 0x530),
  (0x557, 0x558), (0x58B, 0x58C), (0x590, 0x590), (0x5C8, 0x5CF), (0x5EB, 0x5EE), (0x5F5, 0x605),
  (0x61C, 0x61C), (0x6DD, 0x6DD), (0x70E, 0x70F), (0x74B, 0x74C), (0x7B2, 0x7BF), (0x7FB, 0x7FC),
  (0x82E, 0x82F), (0x83F, 0x83F), (0x85C, 0x85D), (0x85F, 0x85F), (0x86B, 0x86F), (0x890, 0x896),
  (0x8E2, 0x8E2), (0x984, 0x984), (0x98D, 0x98E), (0x991, 0x992), (0x9A9, 0x9A9), (0x9B1, 0x9B1),
  (0x9B3, 0x9B5), (0x9BA, 0x9BB), (0x9C5, 0x9C6), (0x9C9, 0x9CA), (0x9CF, 0x9D6), (0x9D8, 0x9DB),
  (0x9DE, 0x9DE), (0x9E4, 0x9E5), (0x9FF, 0xA00), (0xA04, 0xA04), (0xA0B, 0xA0E), (0xA11, 0xA12),
  (0xA29, 0xA29), (0xA31, 0xA31), (0xA34, 0xA34), (0xA37, 0xA37), (0xA3A, 0xA3B), (0xA3D, 0xA3D),
  (0xA43, 0xA46), (0xA49, 0xA4A), (0xA4E, 0xA50), (0xA52, 0xA58), (0xA5D, 0xA5D), (0xA5F, 0xA65),
  (0xA77, 0xA80), (0xA84, 0xA84), (0xA8E, 0xA8E), (0xA92, 0xA92), (0xAA9, 0xAA9), (0xAB1, 0xAB1),
  (0xAB4, 0xAB4), (0xABA, 0xABB), (0xAC6, 0xAC6), (0xACA, 0xACA), (0xACE, 0xACF), (0xAD1, 0xADF),
  (0xAE4, 0xAE5), (0xAF2, 0xAF8), (0xB00, 0xB00), (0xB04, 0xB04), (0xB0D, 0xB0E), (0xB11, 0xB12),
  (0xB29, 0xB29), (0xB31, 0xB31), (0xB34, 0xB34), (0xB3A, 0xB3B), (0xB45, 0xB46), (0xB49, 0xB4A),
  (0xB4E, 0xB54), (0xB58, 0xB5B), (0xB5E, 0xB5E), (0xB64, 0xB65), (0xB78, 0xB81), (0xB84, 0xB84),
  (0xB8B, 0xB8D), (0xB91, 0xB91), (0xB96, 0xB98), (0xB9B, 0xB9B), (0xB9D, 0xB9D), (0xBA0, 0xBA2),
  (0xBA5, 0xBA7), (0xBAB, 0xBAD), (0xBBA, 0xBBD), (0xBC3, 0xBC5), (0xBC9, 0xBC9), (0xBCE, 0xBCF),
  (0xBD1, 0xBD6), (0xBD8, 0xBE5), (0xBFB, 0xBFF), (0xC0D, 0xC0D), (0xC11, 0xC11), (0xC29, 0xC29),
  (0xC3A, 0xC3B), (0xC45, 0xC45), (0xC49, 0xC49), (0xC4E, 0xC54), (0xC57, 0xC57), (0xC5B, 0xC5B),
  (0xC5E, 0xC5F), (0xC64, 0xC65), (0xC70, 0xC76), (0xC8D, 0xC8D), (0xC91, 0xC91), (0xCA9, 0xCA9),
  (0xCB4, 0xCB4), (0xCBA, 0xCBB), (0xCC5, 0xCC5), (0xCC9, 0xCC9), (0xCCE, 0xCD4), (0xCD7, 0xCDB),
  (0xCDF, 0xCDF), (0xCE4, 0xCE5), (0xCF0, 0xCF0), (0xCF4, 0xCFF), (0xD0D, 0xD0D), (0xD11, 0xD11),
  (0xD45, 0xD45), (0xD49, 0xD49), (0xD50, 0xD53), (0xD64, 0xD65), (0xD80, 0xD80), (0xD84, 0xD84),
  (0xD97, 0xD99), (0xDB2, 0xDB2), (0xDBC, 0xDBC), (0xDBE, 0xDBF), (0xDC7, 0xDC9), (0xDCB, 0xDCE),
  (0xDD5, 0xDD5), (0xDD7, 0xDD7), (0xDE0, 0xDE5), (0xDF0, 0xDF1), (0xDF5, 0xE00), (0xE3B, 0xE3E),
  (0xE5C, 0xE80), (0xE83, 0xE83), (0xE85, 0xE85), (0xE8B, 0xE8B), (0xEA4, 0xEA4), (0xEA6, 0xEA6),
  (0xEBE, 0xEBF), (0xEC5, 0xEC5), (0xEC7, 0xEC7), (0xECF, 0xECF), (0xEDA, 0xEDB), (0xEE0, 0xEFF),
  (0xF48, 0xF48), (0xF6D, 0xF70), (0xF98, 0xF98), (0xFBD, 0xFBD), (0xFCD, 0xFCD), (0xFDB, 0xFFF),
  (0x10C6, 0x10C6), (0x10C8, 0x10CC), (0x10CE, 0x10CF), (0x1249, 0x1249), (0x124E, 0x124F),
  (0x1257, 0x1257), (0x1259, 0x1259), (0x125E, 0x125F), (0x1289, 0x1289), (0x128E, 0x128F),
  (0x12B1, 0x12B1), (0x12B6, 0x12B7), (0x12BF, 0x12BF), (0x12C1, 0x12C1), (0x12C6, 0x12C7),
  (0x12D7, 0x12D7), (0x1311, 0x1311), (0x1316, 0x1317), (0x135B, 0x135C), (0x137D, 0x137F),
  (0x139A, 0x139F), (0x13F6, 0x13F7), (0x13FE, 0x13FF), (0x1680, 0x1680), (0x169D, 0x169F),
  (0x16F9, 0x16FF), (0x1716, 0x171E), (0x1737, 0x173F), (0x1754, 0x175F), (0x176D, 0x176D),
  (0x1771, 0x1771), (0x1774, 0x177F), (0x17DE, 0x17DF), (0x17EA, 0x17EF), (0x17FA, 0x17FF),
  (0x181A, 0x181F), (0x1879, 0x187F), (0x18AB, 0x18AF), (0x18F6, 0x18FF), (0x191F, 0x191F),
  (0x192C, 0x192F), (0x193C, 0x193F), (0x1941, 0x1943), (0x196E, 0x196F), (0x1975, 0x197F),
  (0x19AC, 0x19AF), (0x19CA, 0x19CF), (0x19DB, 0x19DD), (0x1A1C, 0x1A1D), (0x1A5F, 0x1A5F),
  (0x1A7D, 0x1A7E), (0x1A8A, 0x1A8F), (0x1A9A, 0x1A9F), (0x1AAE, 0x1AAF), (0x1ADE, 0x1ADF),
  (0x1AEC, 0x1AFF), (0x1B4D, 0x1B4D), (0x1BF4, 0x1BFB), (0x1C38, 0x1C3A), (0x1C4A, 0x1C4C),
  (0x1C8B, 0x1C8F), (0x1CBB, 0x1CBC), (0x1CC8, 0x1CCF), (0x1CFB, 0x1CFF), (0x1F16, 0x1F17),
  (0x1F1E, 0x1F1F), (0x1F46, 0x1F47), (0x1F4E, 0x1F4F), (0x1F58, 0x1F58), (0x1F5A, 0x1F5A),
  (0x1F5C, 0x1F5C), (0x1F5E, 0x1F5E), (0x1F7E, 0x1F7F), (0x1FB5, 0x1FB5), (0x1FBD, 0x1FBD),
  (0x1FBF, 0x1FC1), (0x1FC5, 0x1FC5), (0x1FCD, 0x1FCF), (0x1FD4, 0x1FD5), (0x1FDC, 0x1FDF),
  (0x1FED, 0x1FEE), (0x1FF0, 0x1FF1), (0x1FF5, 0x1FF5), (0x1FFD, 0x200A), (0x200E, 0x200F),
  (0x2017, 0x2017), (0x2024, 0x2026), (0x2028, 0x202F), (0x203E, 0x203E), (0x2047, 0x2049),
  (0x205F, 0x205F), (0x2065, 0x2069), (0x2072, 0x2073), (0x208F, 0x208F), (0x209D, 0x209F),
  (0x20C2, 0x20CF), (0x20F1, 0x2101), (0x2105, 0x2106), (0x218C, 0x218F), (0x242A, 0x243F),
  (0x244B, 0x245F), (0x2488, 0x249B), (0x2A74, 0x2A74), (0x2B74, 0x2B75), (0x2CF4, 0x2CF8),
  (0x2D26, 0x2D26), (0x2D28, 0x2D2C), (0x2D2E, 0x2D2F), (0x2D68, 0x2D6E), (0x2D71, 0x2D7E),
  (0x2D97, 0x2D9F), (0x2DA7, 0x2DA7), (0x2DAF, 0x2DAF), (0x2DB7, 0x2DB7), (0x2DBF, 0x2DBF),
  (0x2DC7, 0x2DC7), (0x2DCF, 0x2DCF), (0x2DD7, 0x2DD7), (0x2DDF, 0x2DDF), (0x2E5E, 0x2E7F),
  (0x2E9A, 0x2E9A), (0x2EF4, 0x2EFF), (0x2FD6, 0x3000), (0x3040, 0x3040), (0x3097, 0x3098),
  (0x309B, 0x309C), (0x3100, 0x3104), (0x3130, 0x3130), (0x318F, 0x318F), (0x31E6, 0x31EF),
  (0x321F, 0x321F), (0x33C2, 0x33C2), (0x33C7, 0x33C7), (0x33D8, 0x33D8), (0xA48D, 0xA48F),
  (0xA4C7, 0xA4CF), (0xA62C, 0xA63F), (0xA6F8, 0xA6FF), (0xA7DD, 0xA7F0), (0xA82D, 0xA82F),
  (0xA83A, 0xA83F), (0xA878, 0xA87F), (0xA8C6, 0xA8CD), (0xA8DA, 0xA8DF), (0xA954, 0xA95E),
  (0xA97D, 0xA97F), (0xA9CE, 0xA9CE), (0xA9DA, 0xA9DD), (0xA9FF, 0xA9FF), (0xAA37, 0xAA3F),
  (0xAA4E, 0xAA4F), (0xAA5A, 0xAA5B), (0xAAC3, 0xAADA), (0xAAF7, 0xAB00), (0xAB07, 0xAB08),
  (0xAB0F, 0xAB10), (0xAB17, 0xAB1F), (0xAB27, 0xAB27), (0xAB2F, 0xAB2F), (0xAB6C, 0xAB6F),
  (0xABEE, 0xABEF), (0xABFA, 0xABFF), (0xD7A4, 0xD7AF), (0xD7C7, 0xD7CA), (0xD7FC, 0xF8FF),
  (0xFA6E, 0xFA6F), (0xFADA, 0xFAFF), (0xFB07, 0xFB12), (0xFB18, 0xFB1C), (0xFB37, 0xFB37),
  (0xFB3D, 0xFB3D), (0xFB3F, 0xFB3F), (0xFB42, 0xFB42), (0xFB45, 0xFB45), (0xFC5E, 0xFC63),
  (0xFDD0, 0xFDEF), (0xFDFA, 0xFDFB), (0xFE12, 0xFE13), (0xFE16, 0xFE16), (0xFE19, 0xFE1F),
  (0xFE30, 0xFE30), (0xFE47, 0xFE4C), (0xFE52, 0xFE53), (0xFE55, 0xFE56), (0xFE5F, 0xFE5F),
  (0xFE67, 0xFE68), (0xFE6A, 0xFE70), (0xFE72, 0xFE72), (0xFE74, 0xFE76), (0xFE78, 0xFE78),
  (0xFE7A, 0xFE7A), (0xFE7C, 0xFE7C), (0xFE7E, 0xFE7E), (0xFEFD, 0xFEFE), (0xFF00, 0xFF00),
  (0xFF03, 0xFF03), (0xFF05, 0xFF05), (0xFF0F, 0xFF0F), (0xFF1A, 0xFF1A), (0xFF1F, 0xFF20),
  (0xFF3B, 0xFF3E), (0xFF5C, 0xFF5C), (0xFFBF, 0xFFC1), (0xFFC8, 0xFFC9), (0xFFD0, 0xFFD1),
  (0xFFD8, 0xFFD9), (0xFFDD, 0xFFDF), (0xFFE3, 0xFFE3), (0xFFE7, 0xFFE7), (0xFFEF, 0xFFFF),
  (0x1000C, 0x1000C), (0x10027, 0x10027), (0x1003B, 0x1003B), (0x1003E, 0x1003E),
  (0x1004E, 0x1004F), (0x1005E, 0x1007F), (0x100FB, 0x100FF), (0x10103, 0x10106),
  (0x10134, 0x10136), (0x1018F, 0x1018F), (0x1019D, 0x1019F), (0x101A1, 0x101CF),
  (0x101FE, 0x1027F), (0x1029D, 0x1029F), (0x102D1, 0x102DF), (0x102FC, 0x102FF),
  (0x10324, 0x1032C), (0x1034B, 0x1034F), (0x1037B, 0x1037F), (0x1039E, 0x1039E),
  (0x103C4, 0x103C7), (0x103D6, 0x103FF), (0x1049E, 0x1049F), (0x104AA, 0x104AF),
  (0x104D4, 0x104D7), (0x104FC, 0x104FF), (0x10528, 0x1052F), (0x10564, 0x1056E),
  (0x1057B, 0x1057B), (0x1058B, 0x1058B), (0x10593, 0x10593), (0x10596, 0x10596),
  (0x105A2, 0x105A2), (0x105B2, 0x105B2), (0x105BA, 0x105BA), (0x105BD, 0x105BF),
  (0x105F4, 0x105FF), (0x10737, 0x1073F), (0x10756, 0x1075F), (0x10768, 0x1077F),
  (0x10786, 0x10786), (0x107B1, 0x107B1), (0x107BB, 0x107FF), (0x10806, 0x10807),
  (0x10809, 0x10809), (0x10836, 0x10836), (0x10839, 0x1083B), (0x1083D, 0x1083E),
  (0x10856, 0x10856), (0x1089F, 0x108A6), (0x108B0, 0x108DF), (0x108F3, 0x108F3),
  (0x108F6, 0x108FA), (0x1091C, 0x1091E), (0x1093A, 0x1093E), (0x1095A, 0x1097F),
  (0x109B8, 0x109BB), (0x109D0, 0x109D1), (0x10A04, 0x10A04), (0x10A07, 0x10A0B),
  (0x10A14, 0x10A14), (0x10A18, 0x10A18), (0x10A36, 0x10A37), (0x10A3B, 0x10A3E),
  (0x10A49, 0x10A4F), (0x10A59, 0x10A5F), (0x10AA0, 0x10ABF), (0x10AE7, 0x10AEA),
  (0x10AF7, 0x10AFF), (0x10B36, 0x10B38), (0x10B56, 0x10B57), (0x10B73, 0x10B77),
  (0x10B92, 0x10B98), (0x10B9D, 0x10BA8), (0x10BB0, 0x10BFF), (0x10C49, 0x10C7F),
  (0x10CB3, 0x10CBF), (0x10CF3, 0x10CF9), (0x10D28, 0x10D2F), (0x10D3A, 0x10D3F),
  (0x10D66, 0x10D68), (0x10D86, 0x10D8D), (0x10D90, 0x10E5F), (0x10E7F, 0x10E7F),
  (0x10EAA, 0x10EAA), (0x10EAE, 0x10EAF), (0x10EB2, 0x10EC1), (0x10EC8, 0x10ECF),
  (0x10ED9, 0x10EF9), (0x10F28, 0x10F2F), (0x10F5A, 0x10F6F), (0x10F8A, 0x10FAF),
  (0x10FCC, 0x10FDF), (0x10FF7, 0x10FFF), (0x1104E, 0x11051), (0x11076, 0x1107E),
  (0x110BD, 0x110BD), (0x110C3, 0x110CF), (0x110E9, 0x110EF), (0x110FA, 0x110FF),
  (0x11135, 0x11135), (0x11148, 0x1114F), (0x11177, 0x1117F), (0x111E0, 0x111E0),
  (0x111F5, 0x111FF), (0x11212, 0x11212), (0x11242, 0x1127F), (0x11287, 0x11287),
  (0x11289, 0x11289), (0x1128E, 0x1128E), (0x1129E, 0x1129E), (0x112AA, 0x112AF),
  (0x112EB, 0x112EF), (0x112FA, 0x112FF), (0x11304, 0x11304), (0x1130D, 0x1130E),
  (0x11311, 0x11312), (0x11329, 0x11329), (0x11331, 0x11331), (0x11334, 0x11334),
  (0x1133A, 0x1133A), (0x11345, 0x11346), (0x11349, 0x1134A), (0x1134E, 0x1134F),
  (0x11351, 0x11356), (0x11358, 0x1135C), (0x11364, 0x11365), (0x1136D, 0x1136F),
  (0x11375, 0x1137F), (0x1138A, 0x1138A), (0x1138C, 0x1138D), (0x1138F, 0x1138F),
  (0x113B6, 0x113B6), (0x113C1, 0x113C1), (0x113C3, 0x113C4), (0x113C6, 0x113C6),
  (0x113CB, 0x113CB), (0x113D6, 0x113D6), (0x113D9, 0x113E0), (0x113E3, 0x113FF),
  (0x1145C, 0x1145C), (0x11462, 0x1147F), (0x114C8, 0x114CF), (0x114DA, 0x1157F),
  (0x115B6, 0x115B7), (0x115DE, 0x115FF), (0x11645, 0x1164F), (0x1165A, 0x1165F),
  (0x1166D, 0x1167F), (0x116BA, 0x116BF), (0x116CA, 0x116CF), (0x116E4, 0x116FF),
  (0x1171B, 0x1171C), (0x1172C, 0x1172F), (0x11747, 0x117FF), (0x1183C, 0x1189F),
  (0x118F3, 0x118FE), (0x11907, 0x11908), (0x1190A, 0x1190B), (0x11914, 0x11914),
  (0x11917, 0x11917), (0x11936, 0x11936), (0x11939, 0x1193A), (0x11947, 0x1194F),
  (0x1195A, 0x1199F), (0x119A8, 0x119A9), (0x119D8, 0x119D9), (0x119E5, 0x119FF),
  (0x11A48, 0x11A4F), (0x11AA3, 0x11AAF), (0x11AF9, 0x11AFF), (0x11B0A, 0x11B5F),
  (0x11B68, 0x11BBF), (0x11BE2, 0x11BEF), (0x11BFA, 0x11BFF), (0x11C09, 0x11C09),
  (0x11C37, 0x11C37), (0x11C46, 0x11C4F), (0x11C6D, 0x11C6F), (0x11C90, 0x11C91),
  (0x11CA8, 0x11CA8), (0x11CB7, 0x11CFF), (0x11D07, 0x11D07), (0x11D0A, 0x11D0A),
  (0x11D37, 0x11D39), (0x11D3B, 0x11D3B), (0x11D3E, 0x11D3E), (0x11D48, 0x11D4F),
  (0x11D5A, 0x11D5F), (0x11D66, 0x11D66), (0x11D69, 0x11D69), (0x11D8F, 0x11D8F),
  (0x11D92, 0x11D92), (0x11D99, 0x11D9F), (0x11DAA, 0x11DAF), (0x11DDC, 0x11DDF),
  (0x11DEA, 0x11EDF), (0x11EF9, 0x11EFF), (0x11F11, 0x11F11), (0x11F3B, 0x11F3D),
  (0x11F5B, 0x11FAF), (0x11FB1, 0x11FBF), (0x11FF2, 0x11FFE), (0x1239A, 0x123FF),
  (0x1246F, 0x1246F), (0x12475, 0x1247F), (0x12544, 0x12F8F), (0x12FF3, 0x12FFF),
  (0x13430, 0x1343F), (0x13456, 0x1345F), (0x143FB, 0x143FF), (0x14647, 0x160FF),
  (0x1613A, 0x167FF), (0x16A39, 0x16A3F), (0x16A5F, 0x16A5F), (0x16A6A, 0x16A6D),
  (0x16ABF, 0x16ABF), (0x16ACA, 0x16ACF), (0x16AEE, 0x16AEF), (0x16AF6, 0x16AFF),
  (0x16B46, 0x16B4F), (0x16B5A, 0x16B5A), (0x16B62, 0x16B62), (0x16B78, 0x16B7C),
  (0x16B90, 0x16D3F), (0x16D7A, 0x16E3F), (0x16E9B, 0x16E9F), (0x16EB9, 0x16EBA),
  (0x16ED4, 0x16EFF), (0x16F4B, 0x16F4E), (0x16F88, 0x16F8E), (0x16FA0, 0x16FDF),
  (0x16FE5, 0x16FEF), (0x16FF7, 0x16FFF), (0x18CD6, 0x18CFE), (0x18D1F, 0x18D7F),
  (0x18DF3, 0x1AFEF), (0x1AFF4, 0x1AFF4), (0x1AFFC, 0x1AFFC), (0x1AFFF, 0x1AFFF),
  (0x1B123, 0x1B131), (0x1B133, 0x1B14F), (0x1B153, 0x1B154), (0x1B156, 0x1B163),
  (0x1B168, 0x1B16F), (0x1B2FC, 0x1BBFF), (0x1BC6B, 0x1BC6F), (0x1BC7D, 0x1BC7F),
  (0x1BC89, 0x1BC8F), (0x1BC9A, 0x1BC9B), (0x1BCA4, 0x1CBFF), (0x1CCFD, 0x1CCFF),
  (0x1CEB4, 0x1CEB9), (0x1CED1, 0x1CEDF), (0x1CEF1, 0x1CEFF), (0x1CF2E, 0x1CF2F),
  (0x1CF47, 0x1CF4F), (0x1CFC4, 0x1CFFF), (0x1D0F6, 0x1D0FF), (0x1D127, 0x1D128),
  (0x1D1EB, 0x1D1FF), (0x1D246, 0x1D2BF), (0x1D2D4, 0x1D2DF), (0x1D2F4, 0x1D2FF),
  (0x1D357, 0x1D35F), (0x1D379, 0x1D3FF), (0x1D455, 0x1D455), (0x1D49D, 0x1D49D),
  (0x1D4A0, 0x1D4A1), (0x1D4A3, 0x1D4A4), (0x1D4A7, 0x1D4A8), (0x1D4AD, 0x1D4AD),
  (0x1D4BA, 0x1D4BA), (0x1D4BC, 0x1D4BC), (0x1D4C4, 0x1D4C4), (0x1D506, 0x1D506),
  (0x1D50B, 0x1D50C), (0x1D515, 0x1D515), (0x1D51D, 0x1D51D), (0x1D53A, 0x1D53A),
  (0x1D53F, 0x1D53F), (0x1D545, 0x1D545), (0x1D547, 0x1D549), (0x1D551, 0x1D551),
  (0x1D6A6, 0x1D6A7), (0x1D7CC, 0x1D7CD), (0x1DA8C, 0x1DA9A), (0x1DAA0, 0x1DAA0),
  (0x1DAB0, 0x1DEFF), (0x1DF1F, 0x1DF24), (0x1DF2B, 0x1DFFF), (0x1E007, 0x1E007),
  (0x1E019, 0x1E01A), (0x1E022, 0x1E022), (0x1E025, 0x1E025), (0x1E02B, 0x1E02F),
  (0x1E06E, 0x1E08E), (0x1E090, 0x1E0FF), (0x1E12D, 0x1E12F), (0x1E13E, 0x1E13F),
  (0x1E14A, 0x1E14D), (0x1E150, 0x1E28F), (0x1E2AF, 0x1E2BF), (0x1E2FA, 0x1E2FE),
  (0x1E300, 0x1E4CF), (0x1E4FA, 0x1E5CF), (0x1E5FB, 0x1E5FE), (0x1E600, 0x1E6BF),
  (0x1E6DF, 0x1E6DF), (0x1E6F6, 0x1E6FD), (0x1E700, 0x1E7DF), (0x1E7E7, 0x1E7E7),
  (0x1E7EC, 0x1E7EC), (0x1E7EF, 0x1E7EF), (0x1E7FF, 0x1E7FF), (0x1E8C5, 0x1E8C6),
  (0x1E8D7, 0x1E8FF), (0x1E94C, 0x1E94F), (0x1E95A, 0x1E95D), (0x1E960, 0x1EC70),
  (0x1ECB5, 0x1ED00), (0x1ED3E, 0x1EDFF), (0x1EE04, 0x1EE04), (0x1EE20, 0x1EE20),
  (0x1EE23, 0x1EE23), (0x1EE25, 0x1EE26), (0x1EE28, 0x1EE28), (0x1EE33, 0x1EE33),
  (0x1EE38, 0x1EE38), (0x1EE3A, 0x1EE3A), (0x1EE3C, 0x1EE41), (0x1EE43, 0x1EE46),
  (0x1EE48, 0x1EE48), (0x1EE4A, 0x1EE4A), (0x1EE4C, 0x1EE4C), (0x1EE50, 0x1EE50),
  (0x1EE53, 0x1EE53), (0x1EE55, 0x1EE56), (0x1EE58, 0x1EE58), (0x1EE5A, 0x1EE5A),
  (0x1EE5C, 0x1EE5C), (0x1EE5E, 0x1EE5E), (0x1EE60, 0x1EE60), (0x1EE63, 0x1EE63),
  (0x1EE65, 0x1EE66), (0x1EE6B, 0x1EE6B), (0x1EE73, 0x1EE73), (0x1EE78, 0x1EE78),
  (0x1EE7D, 0x1EE7D), (0x1EE7F, 0x1EE7F), (0x1EE8A, 0x1EE8A), (0x1EE9C, 0x1EEA0),
  (0x1EEA4, 0x1EEA4), (0x1EEAA, 0x1EEAA), (0x1EEBC, 0x1EEEF), (0x1EEF2, 0x1EFFF),
  (0x1F02C, 0x1F02F), (0x1F094, 0x1F09F), (0x1F0AF, 0x1F0B0), (0x1F0C0, 0x1F0C0),
  (0x1F0D0, 0x1F0D0), (0x1F0F6, 0x1F100), (0x1F1AE, 0x1F1E5), (0x1F203, 0x1F20F),
  (0x1F23C, 0x1F23F), (0x1F249, 0x1F24F), (0x1F252, 0x1F25F), (0x1F266, 0x1F2FF),
  (0x1F6D9, 0x1F6DB), (0x1F6ED, 0x1F6EF), (0x1F6FD, 0x1F6FF), (0x1F7DA, 0x1F7DF),
  (0x1F7EC, 0x1F7EF), (0x1F7F1, 0x1F7FF), (0x1F80C, 0x1F80F), (0x1F848, 0x1F84F),
  (0x1F85A, 0x1F85F), (0x1F888, 0x1F88F), (0x1F8AE, 0x1F8AF), (0x1F8BC, 0x1F8BF),
  (0x1F8C2, 0x1F8CF), (0x1F8D9, 0x1F8FF), (0x1FA58, 0x1FA5F), (0x1FA6E, 0x1FA6F),
  (0x1FA7D, 0x1FA7F), (0x1FA8B, 0x1FA8D), (0x1FAC7, 0x1FAC7), (0x1FAC9, 0x1FACC),
  (0x1FADD, 0x1FADE), (0x1FAEB, 0x1FAEE), (0x1FAF9, 0x1FAFF), (0x1FB93, 0x1FB93),
  (0x1FBFB, 0x1FFFF), (0x2A6E0, 0x2A6FF), (0x2B81E, 0x2B81F), (0x2CEAE, 0x2CEAF),
  (0x2EBE1, 0x2EBEF), (0x2EE5E, 0x2F7FF), (0x2FA1E, 0x2FFFF), (0x3134B, 0x3134F),
  (0x3347A, 0xE00FF), (0xE01F0, 0x10FFFF)]

/-- Code points of characters that a name is read without. -/
def droppedRanges : List (Nat × Nat) := [
  (0xAD, 0xAD), (0x34F, 0x34F), (0x115F, 0x1160), (0x17B4, 0x17B5), (0x180B, 0x180F),
  (0x200B, 0x200B), (0x2060, 0x2064), (0x206A, 0x206F), (0x3164, 0x3164), (0xFE00, 0xFE0F),
  (0xFEFF, 0xFEFF), (0xFFA0, 0xFFA0), (0x1BCA0, 0x1BCA3), (0x1D173, 0x1D17A), (0xE0100, 0xE01EF)]

/-- Code points of capitals that do not stand for their lower case. -/
def keptCapitalRanges : List (Nat × Nat) := [
  (0x13A0, 0x13F5)]

/-- Code points that stand for one character each. -/
def characterRuns : List ImageRun := [
  ⟨0xAA, "a"⟩, ⟨0xB2, "23"⟩, ⟨0xB5, "μ"⟩, ⟨0xB9, "1o"⟩, ⟨0x17F, "s"⟩, ⟨0x2B0, "hɦjrɹɻʁwy"⟩,
  ⟨0x2E0, "ɣlsxʕ"⟩, ⟨0x340, "\u0300\u0301"⟩, ⟨0x343, "\u0313"⟩, ⟨0x345, "ι"⟩, ⟨0x374, "ʹ"⟩,
  ⟨0x37E, ";"⟩, ⟨0x387, "·"⟩, ⟨0x3D0, "βθυύϋφπ"⟩, ⟨0x3F0, "κρσ"⟩, ⟨0x3F5, "ε"⟩, ⟨0x3F9, "σ"⟩,
  ⟨0xF0C, "་"⟩, ⟨0x10FC, "ნ"⟩, ⟨0x13F8, "ᏰᏱᏲᏳᏴᏵ"⟩, ⟨0x1C80, "вдосттъѣꙋ"⟩, ⟨0x1D2C, "aæb"⟩,
  ⟨0x1D30, "deǝghijklmn"⟩, ⟨0x1D3C, "oȣprtuwaɐɑᴂbdeəɛɜg"⟩,
  ⟨0x1D4F, "kmŋoɔᴖᴗptuᴝɯvᴥβγδφχiruvβγρφχ"⟩, ⟨0x1D78, "н"⟩,
  ⟨0x1D9B, "ɒcɕðɜfɟɡɥɨɩɪᵻʝɭᶅʟɱɰɲɳɴɵɸʂʃƫʉʊᴜʋʌzʐʑʒθ"⟩, ⟨0x1E9B, "ṡ"⟩, ⟨0x1F71, "ά"⟩, ⟨0x1F73, "έ"⟩,
  ⟨0x1F75, "ή"⟩, ⟨0x1F77, "ί"⟩, ⟨0x1F79, "ό"⟩, ⟨0x1F7B, "ύ"⟩, ⟨0x1F7D, "ώ"⟩, ⟨0x1FBB, "ά"⟩,
  ⟨0x1FBE, "ι"⟩, ⟨0x1FC9, "έ"⟩, ⟨0x1FCB, "ή"⟩, ⟨0x1FD3, "ΐ"⟩, ⟨0x1FDB, "ί"⟩, ⟨0x1FE3, "ΰ"⟩,
  ⟨0x1FEB, "ύ"⟩, ⟨0x1FEF, "\x60"⟩, ⟨0x1FF9, "ό"⟩, ⟨0x1FFB, "ώ"⟩, ⟨0x2011, "‐"⟩, ⟨0x2070, "0i"⟩,
  ⟨0x2074, "456789+−=()n0123456789+−=()"⟩, ⟨0x2090, "aeoxəhklmnpst"⟩, ⟨0x2102, "c"⟩,
  ⟨0x2107, "ɛ"⟩, ⟨0x210A, "ghhhhħiill"⟩, ⟨0x2115, "n"⟩, ⟨0x2119, "pqrrr"⟩, ⟨0x2124, "z"⟩,
  ⟨0x2128, "z"⟩, ⟨0x212C, "bc"⟩, ⟨0x212F, "eef"⟩, ⟨0x2133, "mo\u05D0\u05D1\u05D2\u05D3i"⟩,
  ⟨0x213C, "πγγπ∑"⟩, ⟨0x2145, "ddeij"⟩, ⟨0x2160, "i"⟩, ⟨0x2164, "v"⟩, ⟨0x2169, "x"⟩,
  ⟨0x216C, "lcdmi"⟩, ⟨0x2174, "v"⟩, ⟨0x2179, "x"⟩, ⟨0x217C, "lcdm"⟩, ⟨0x2329, "〈〉"⟩,
  ⟨0x2460, "123456789"⟩, ⟨0x24B6, "abcdefghijklmnopqrstuvwxyzabcdefghijklmnopqrstuvwxyz0"⟩,
  ⟨0x2C7C, "jv"⟩, ⟨0x2D6F, "ⵡ"⟩, ⟨0x2E9F, "母"⟩, ⟨0x2EF3, "龟"⟩,
  ⟨0x2F00, "一丨丶丿乙亅二亠人儿入八冂冖冫几凵刀力勹匕匚匸十卜卩厂厶又口囗土士夂夊"⟩,
  ⟨0x2F23, "夕大女子宀寸小尢尸屮山巛工己巾干幺广廴廾弋弓彐彡彳心戈戶手支攴文斗斤方"⟩,
  ⟨0x2F46, "无日曰月木欠止歹殳毋比毛氏气水火爪父爻爿片牙牛犬玄玉瓜瓦甘生用田疋疒癶"⟩,
  ⟨0x2F69, "白皮皿目矛矢石示禸禾穴立竹米糸缶网羊羽老而耒耳聿肉臣自至臼舌舛舟艮色艸"⟩,
  ⟨0x2F8C, "虍虫血行衣襾見角言谷豆豕豸貝赤走足身車辛辰辵邑酉釆里金長門阜隶隹雨靑非"⟩,
  ⟨0x2FAF, "面革韋韭音頁風飛食首香馬骨高髟鬥鬯鬲鬼魚鳥鹵鹿麥麻黃黍黑黹黽鼎鼓鼠鼻齊"⟩,
  ⟨0x2FD2, "齒龍龜龠"⟩, ⟨0x3002, "."⟩, ⟨0x3036, "〒"⟩, ⟨0x3038, "十卄卅"⟩,
  ⟨0x3131, "ᄀᄁᆪᄂᆬᆭᄃᄄᄅᆰᆱᆲᆳᆴᆵᄚᄆᄇᄈᄡᄉᄊᄋᄌᄍᄎᄏᄐᄑ하ᅢᅣᅤᅥᅦᅧᅨᅩᅪᅫᅬᅭᅮᅯᅰᅱᅲᅳ"⟩,
  ⟨0x3162, "ᅴᅵ"⟩, ⟨0x3165, "ᄔᄕᇇᇈᇌᇎᇓᇗᇙᄜᇝᇟᄝᄞᄠᄢᄣᄧᄩᄫᄬᄭᄮᄯᄲᄶᅀᅇᅌᇱᇲᅗᅘᅙᆄᆅᆈᆑᆒᆔᆞᆡ"⟩,
  ⟨0x3192, "一二三四上中下甲乙丙丁天地人"⟩, ⟨0x3244, "問幼文箏"⟩,
  ⟨0x3260, "ᄀᄂᄃᄅᄆᄇᄉᄋᄌᄎᄏᄐᄑᄒ가나다라마바사아자차카타파하"⟩, ⟨0x327E, "우"⟩,
  ⟨0x3280, "一二三四五六七八九十月火水木金土日株有社名特財祝労秘男女適優印注項休写"⟩,
  ⟨0x32A3, "正上中下左右医宗学監企資協夜"⟩,
  ⟨0x32D0, "アイウエオカキクケコサシスセソタチツテトナニヌネノハヒフヘホマミムメモ"⟩,
  ⟨0x32F3, "ヤユヨラリルレロワヰヱヲ"⟩, ⟨0xA69C, "ъь"⟩, ⟨0xA770, "ꝯ"⟩, ⟨0xA7CE, "\uA7CF"⟩,
  ⟨0xA7D2, "ꟓ"⟩, ⟨0xA7D4, "ꟕ"⟩, ⟨0xA7F1, "scfq"⟩, ⟨0xA7F8, "ħœ"⟩, ⟨0xAB5C, "ꜧꬷɫꭒ"⟩, ⟨0xAB69, "ʍ"⟩,
  ⟨0xAB70, "ᎠᎡᎢᎣᎤᎥᎦᎧᎨᎩᎪᎫᎬᎭᎮᎯᎰᎱᎲᎳᎴᎵᎶᎷᎸᎹᎺᎻᎼᎽᎾᎿᏀᏁᏂᏃᏄᏅᏆᏇᏈᏉᏊᏋᏌᏍᏎᏏᏐᏑᏒᏓᏔᏕᏖᏗᏘᏙᏚᏛᏜᏝᏞᏟᏠᏡᏢᏣᏤᏥ"⟩,
  ⟨0xABB6, "ᏦᏧᏨᏩᏪᏫᏬᏭᏮᏯ"⟩,
  ⟨0xF900, "豈更車賈滑串句龜龜契金喇奈懶癩羅蘿螺裸邏樂洛烙珞落酪駱亂卵欄爛蘭鸞嵐濫"⟩,
  ⟨0xF923, "藍襤拉臘蠟廊朗浪狼郎來冷勞擄櫓爐盧老蘆虜路露魯鷺碌祿綠菉錄鹿論壟弄籠聾"⟩,
  ⟨0xF946, "牢磊賂雷壘屢樓淚漏累縷陋勒肋凜凌稜綾菱陵讀拏樂諾丹寧怒率異北磻便復不泌"⟩,
  ⟨0xF969, "數索參塞省葉說殺辰沈拾若掠略亮兩凉梁糧良諒量勵呂女廬旅濾礪閭驪麗黎力曆"⟩,
  ⟨0xF98C, "歷轢年憐戀撚漣煉璉秊練聯輦蓮連鍊列劣咽烈裂說廉念捻殮簾獵令囹寧嶺怜玲瑩"⟩,
  ⟨0xF9AF, "羚聆鈴零靈領例禮醴隸惡了僚寮尿料樂燎療蓼遼龍暈阮劉杻柳流溜琉留硫紐類六"⟩,
  ⟨0xF9D2, "戮陸倫崙淪輪律慄栗率隆利吏履易李梨泥理痢罹裏裡里離匿溺吝燐璘藺隣鱗麟林"⟩,
  ⟨0xF9F5, "淋臨立笠粒狀炙識什茶刺切度拓糖宅洞暴輻行降見廓兀嗀"⟩, ⟨0xFA10, "塚"⟩, ⟨0xFA12, "晴"⟩,
  ⟨0xFA15, "凞猪益礼神祥福靖精羽"⟩, ⟨0xFA20, "蘒"⟩, ⟨0xFA22, "諸"⟩, ⟨0xFA25, "逸都"⟩,
  ⟨0xFA2A, "飯飼館鶴郞隷侮僧免勉勤卑喝嘆器塀墨層屮悔慨憎懲敏既暑梅海渚漢煮爫琢碑社"⟩,
  ⟨0xFA4D, "祉祈祐祖祝禍禎穀突節練縉繁署者臭艹艹著褐視謁謹賓贈辶逸難響頻恵𤋮舘"⟩,
  ⟨0xFA70, "並况全侀充冀勇勺喝啕喙嗢塚墳奄奔婢嬨廒廙彩徭惘慎愈憎慠懲戴揄搜摒敖晴朗"⟩,
  ⟨0xFA93, "望杖歹殺流滛滋漢瀞煮瞧爵犯猪瑱甆画瘝瘟益盛直睊着磌窱節类絛練缾者荒華蝹"⟩,
  ⟨0xFAB6, "襁覆視調諸請謁諾諭謹變贈輸遲醙鉶陼難靖韛響頋頻鬒龜𢡊𢡄𣏕㮝䀘䀹𥉉𥳐𧻓齃"⟩,
  ⟨0xFAD9, "龎"⟩, ⟨0xFB20, "\u05E2\u05D0\u05D3\u05D4\u05DB\u05DC\u05DD\u05E8\u05EA+"⟩,
  ⟨0xFB50, "\u0671\u0671\u067B\u067B\u067B\u067B\u067E\u067E\u067E\u067E\u0680"⟩,
  ⟨0xFB5B, "\u0680\u0680\u0680\u067A\u067A\u067A\u067A\u067F\u067F\u067F\u067F"⟩,
  ⟨0xFB66, "\u0679\u0679\u0679\u0679\u06A4\u06A4\u06A4\u06A4\u06A6\u06A6\u06A6"⟩,
  ⟨0xFB71, "\u06A6\u0684\u0684\u0684\u0684\u0683\u0683\u0683\u0683\u0686\u0686"⟩,
  ⟨0xFB7C, "\u0686\u0686\u0687\u0687\u0687\u0687\u068D\u068D\u068C\u068C\u068E"⟩,
  ⟨0xFB87, "\u068E\u0688\u0688\u0698\u0698\u0691\u0691\u06A9\u06A9\u06A9\u06A9"⟩,
  ⟨0xFB92, "\u06AF\u06AF\u06AF\u06AF\u06B3\u06B3\u06B3\u06B3\u06B1\u06B1\u06B1"⟩,
  ⟨0xFB9D, "\u06B1\u06BA\u06BA\u06BB\u06BB\u06BB\u06BB\u06C0\u06C0\u06C1\u06C1"⟩,
  ⟨0xFBA8, "\u06C1\u06C1\u06BE\u06BE\u06BE\u06BE\u06D2\u06D2\u06D3\u06D3"⟩,
  ⟨0xFBD3, "\u06AD\u06AD\u06AD\u06AD\u06C7\u06C7\u06C6\u06C6\u06C8\u06C8"⟩,
  ⟨0xFBDE, "\u06CB\u06CB\u06C5\u06C5\u06C9\u06C9\u06D0\u06D0\u06D0\u06D0\u0649"⟩,
  ⟨0xFBE9, "\u0649"⟩, ⟨0xFBFC, "\u06CC\u06CC\u06CC\u06CC"⟩, ⟨0xFE10, ",、"⟩, ⟨0xFE14, ";!"⟩,
  ⟨0xFE17, "〖〗"⟩, ⟨0xFE31, "—–__()\x7b\x7d〔〕【】《》〈〉「」『』"⟩, ⟨0xFE4D, "___,、"⟩,
  ⟨0xFE54, ";"⟩, ⟨0xFE57, "!—()\x7b\x7d〔〕"⟩, ⟨0xFE60, "&*+-<>="⟩, ⟨0xFE69, "$"⟩,
  ⟨0xFE80, "\u0621\u0622\u0622\u0623\u0623\u0624\u0624\u0625\u0625\u0626\u0626"⟩,
  ⟨0xFE8B, "\u0626\u0626\u0627\u0627\u0628\u0628\u0628\u0628\u0629\u0629\u062A"⟩,
  ⟨0xFE96, "\u062A\u062A\u062A\u062B\u062B\u062B\u062B\u062C\u062C\u062C\u062C"⟩,
  ⟨0xFEA1, "\u062D\u062D\u062D\u062D\u062E\u062E\u062E\u062E\u062F\u062F\u0630"⟩,
  ⟨0xFEAC, "\u0630\u0631\u0631\u0632\u0632\u0633\u0633\u0633\u0633\u0634\u0634"⟩,
  ⟨0xFEB7, "\u0634\u0634\u0635\u0635\u0635\u0635\u0636\u0636\u0636\u0636\u0637"⟩,
  ⟨0xFEC2, "\u0637\u0637\u0637\u0638\u0638\u0638\u0638\u0639\u0639\u0639\u0639"⟩,
  ⟨0xFECD, "\u063A\u063A\u063A\u063A\u0641\u0641\u0641\u0641\u0642\u0642\u0642"⟩,
  ⟨0xFED8, "\u0642\u0643\u0643\u0643\u0643\u0644\u0644\u0644\u0644\u0645\u0645"⟩,
  ⟨0xFEE3, "\u0645\u0645\u0646\u0646\u0646\u0646\u0647\u0647\u0647\u0647\u0648"⟩,
  ⟨0xFEEE, "\u0648\u0649\u0649\u064A\u064A\u064A\u064A"⟩, ⟨0xFF01, "!\x22"⟩, ⟨0xFF04, "$"⟩,
  ⟨0xFF06, "&\x27()*+,-."⟩, ⟨0xFF10, "0123456789"⟩, ⟨0xFF1B, ";<=>"⟩,
  ⟨0xFF21, "abcdefghijklmnopqrstuvwxyz"⟩, ⟨0xFF3F, "_\x60abcdefghijklmnopqrstuvwxyz\x7b"⟩,
  ⟨0xFF5D, "\x7d~⦅⦆.「」、・ヲァィゥェォャュョッーアイウエオカキクケコサシスセソタ"⟩,
  ⟨0xFF81, "チツテトナニヌネノハヒフヘホマミムメモヤユヨラリルレロワン\u3099\u309A"⟩,
  ⟨0xFFA1, "ᄀᄁᆪᄂᆬᆭᄃᄄᄅᆰᆱᆲᆳᆴᆵᄚᄆᄇᄈᄡᄉᄊᄋᄌᄍᄎᄏᄐᄑᄒ"⟩, ⟨0xFFC2, "ᅡᅢᅣᅤᅥᅦ"⟩,
  ⟨0xFFCA, "ᅧᅨᅩᅪᅫᅬ"⟩, ⟨0xFFD2, "ᅭᅮᅯᅰᅱᅲ"⟩, ⟨0xFFDA, "ᅳᅴᅵ"⟩, ⟨0xFFE0, "¢£¬"⟩, ⟨0xFFE4, "¦¥₩"⟩,
  ⟨0xFFE8, "│←↑→↓■○"⟩, ⟨0x10781, "ːˑæʙɓ"⟩,
  ⟨0x10787, "ʣꭦʥʤɖɗᶑɘɞʩɤɢɠʛħʜɧʄʪʫɬ𝼄ꞎɮ𝼅ʎ𝼆øɶɷqɺ𝼈ɽɾʀʨʦꭧʧʈⱱ"⟩, ⟨0x107B2, "ʏʡʢʘǀǁǂ𝼊𝼞"⟩,
  ⟨0x16EA0, "𖺻𖺼𖺽𖺾𖺿𖻀𖻁𖻂𖻃𖻄𖻅𖻆𖻇𖻈𖻉𖻊𖻋𖻌𖻍𖻎𖻏𖻐𖻑𖻒𖻓"⟩,
  ⟨0x1CCD6, "abcdefghijklmnopqrstuvwxyz0123456789"⟩,
  ⟨0x1D400, "abcdefghijklmnopqrstuvwxyzabcdefghijklmnopqrstuvwxyzabcdefghijklmnopqr"⟩,
  ⟨0x1D446, "stuvwxyzabcdefg"⟩,
  ⟨0x1D456, "ijklmnopqrstuvwxyzabcdefghijklmnopqrstuvwxyzabcdefghijklmnopqrstuvwxyz"⟩,
  ⟨0x1D49C, "a"⟩, ⟨0x1D49E, "cd"⟩, ⟨0x1D4A2, "g"⟩, ⟨0x1D4A5, "jk"⟩, ⟨0x1D4A9, "nopq"⟩,
  ⟨0x1D4AE, "stuvwxyzabcd"⟩, ⟨0x1D4BB, "f"⟩, ⟨0x1D4BD, "hijklmn"⟩,
  ⟨0x1D4C5, "pqrstuvwxyzabcdefghijklmnopqrstuvwxyzabcdefghijklmnopqrstuvwxyzab"⟩,
  ⟨0x1D507, "defg"⟩, ⟨0x1D50D, "jklmnopq"⟩, ⟨0x1D516, "stuvwxy"⟩,
  ⟨0x1D51E, "abcdefghijklmnopqrstuvwxyzab"⟩, ⟨0x1D53B, "defg"⟩, ⟨0x1D540, "ijklm"⟩,
  ⟨0x1D546, "o"⟩, ⟨0x1D54A, "stuvwxy"⟩,
  ⟨0x1D552, "abcdefghijklmnopqrstuvwxyzabcdefghijklmnopqrstuvwxyzabcdefghijklmnopqr"⟩,
  ⟨0x1D598, "stuvwxyzabcdefghijklmnopqrstuvwxyzabcdefghijklmnopqrstuvwxyzabcdefghij"⟩,
  ⟨0x1D5DE, "klmnopqrstuvwxyzabcdefghijklmnopqrstuvwxyzabcdefghijklmnopqrstuvwxyzab"⟩,
  ⟨0x1D624, "cdefghijklmnopqrstuvwxyzabcdefghijklmnopqrstuvwxyzabcdefghijklmnopqrst"⟩,
  ⟨0x1D66A, "uvwxyzabcdefghijklmnopqrstuvwxyzabcdefghijklmnopqrstuvwxyzıȷ"⟩,
  ⟨0x1D6A8, "αβγδεζηθικλμνξοπρθστυφχψω∇αβγδεζηθικλμνξοπρσστυφχψω∂εθκφρπαβγδεζηθικλμ"⟩,
  ⟨0x1D6EE, "νξοπρθστυφχψω∇αβγδεζηθικλμνξοπρσστυφχψω∂εθκφρπαβγδεζηθικλμνξοπρθστυφχψ"⟩,
  ⟨0x1D734, "ω∇αβγδεζηθικλμνξοπρσστυφχψω∂εθκφρπαβγδεζηθικλμνξοπρθστυφχψω∇αβγδεζηθικ"⟩,
  ⟨0x1D77A, "λμνξοπρσστυφχψω∂εθκφρπαβγδεζηθικλμνξοπρθστυφχψω∇αβγδεζηθικλμνξοπρσστυφ"⟩,
  ⟨0x1D7C0, "χψω∂εθκφρπϝϝ"⟩, ⟨0x1D7CE, "01234567890123456789012345678901234567890123456789"⟩,
  ⟨0x1E030, "абвгдежзиклмопрстуфхцчшыэюꚉәіјөүӏабвгдежзиклопсуфхцчшъыґіѕџҫꙑұ"⟩,
  ⟨0x1EE00, "\u0627\u0628\u062C\u062F"⟩,
  ⟨0x1EE05, "\u0648\u0632\u062D\u0637\u064A\u0643\u0644\u0645\u0646\u0633\u0639"⟩,
  ⟨0x1EE10, "\u0641\u0635\u0642\u0631\u0634\u062A\u062B\u062E\u0630\u0636\u0638"⟩,
  ⟨0x1EE1B, "\u063A\u066E\u06BA\u06A1\u066F"⟩, ⟨0x1EE21, "\u0628\u062C"⟩, ⟨0x1EE24, "\u0647"⟩,
  ⟨0x1EE27, "\u062D"⟩, ⟨0x1EE29, "\u064A\u0643\u0644\u0645\u0646\u0633\u0639\u0641\u0635\u0642"⟩,
  ⟨0x1EE34, "\u0634\u062A\u062B\u062E"⟩, ⟨0x1EE39, "\u0636"⟩, ⟨0x1EE3B, "\u063A"⟩,
  ⟨0x1EE42, "\u062C"⟩, ⟨0x1EE47, "\u062D"⟩, ⟨0x1EE49, "\u064A"⟩, ⟨0x1EE4B, "\u0644"⟩,
  ⟨0x1EE4D, "\u0646\u0633\u0639"⟩, ⟨0x1EE51, "\u0635\u0642"⟩, ⟨0x1EE54, "\u0634"⟩,
  ⟨0x1EE57, "\u062E"⟩, ⟨0x1EE59, "\u0636"⟩, ⟨0x1EE5B, "\u063A"⟩, ⟨0x1EE5D, "\u06BA"⟩,
  ⟨0x1EE5F, "\u066F"⟩, ⟨0x1EE61, "\u0628\u062C"⟩, ⟨0x1EE64, "\u0647"⟩,
  ⟨0x1EE67, "\u062D\u0637\u064A\u0643"⟩, ⟨0x1EE6C, "\u0645\u0646\u0633\u0639\u0641\u0635\u0642"⟩,
  ⟨0x1EE74, "\u0634\u062A\u062B\u062E"⟩, ⟨0x1EE79, "\u0636\u0638\u063A\u066E"⟩,
  ⟨0x1EE7E, "\u06A1"⟩, ⟨0x1EE80, "\u0627\u0628\u062C\u062F\u0647\u0648\u0632\u062D\u0637\u064A"⟩,
  ⟨0x1EE8B, "\u0644\u0645\u0646\u0633\u0639\u0641\u0635\u0642\u0631\u0634\u062A"⟩,
  ⟨0x1EE96, "\u062B\u062E\u0630\u0636\u0638\u063A"⟩, ⟨0x1EEA1, "\u0628\u062C\u062F"⟩,
  ⟨0x1EEA5, "\u0648\u0632\u062D\u0637\u064A"⟩,
  ⟨0x1EEAB, "\u0644\u0645\u0646\u0633\u0639\u0641\u0635\u0642\u0631\u0634\u062A"⟩,
  ⟨0x1EEB6, "\u062B\u062E\u0630\u0636\u0638\u063A"⟩, ⟨0x1F12B, "cr"⟩,
  ⟨0x1F130, "abcdefghijklmnopqrstuvwxyz"⟩, ⟨0x1F202, "サ"⟩,
  ⟨0x1F210, "手字双デ二多解天交映無料前後再新初終生販声吹演投捕一三遊左中右指走打禁"⟩,
  ⟨0x1F233, "空合満有月申割営配"⟩, ⟨0x1F250, "得可"⟩, ⟨0x1FBF0, "0123456789"⟩,
  ⟨0x2F800, "丽丸乁𠄢你侮侻倂偺備僧像㒞𠘺免兔兤具𠔜㒹內再𠕋冗冤仌冬况𩇟凵刃㓟刻剆割"⟩,
  ⟨0x2F823, "剷㔕勇勉勤勺包匆北卉卑博即卽卿卿卿𠨬灰及叟𠭣叫叱吆咞吸呈周咢哶唐啓啣善"⟩,
  ⟨0x2F846, "善喙喫喳嗂圖嘆圗噑噴切壮城埴堍型堲報墬𡓤売壷夆多夢奢𡚨𡛪姬娛娧姘婦㛮㛼"⟩,
  ⟨0x2F869, "嬈嬾嬾𡧈寃寘寧寳𡬘寿将当尢㞁屠屮峀岍𡷤嵃𡷦嵮嵫嵼巡巢㠯巽帨帽幩㡢𢆃㡼庰"⟩,
  ⟨0x2F88C, "庳庶廊𪎒廾𢌱𢌱舁弢弢㣇𣊸𦇚形彫㣣徚忍志忹悁㤺㤜悔𢛔惇慈慌慎慌慺憎憲憤憯"⟩,
  ⟨0x2F8AF, "懞懲懶成戛扝抱拔捐𢬌挽拼捨掃揤𢯱搢揅掩㨮摩摾撝摷㩬敏敬𣀊旣書晉㬙暑㬈㫤"⟩,
  ⟨0x2F8D2, "冒冕最暜肭䏙朗望朡杞杓𣏃㭉柺枅桒梅𣑭梎栟椔㮝楂榣槪檨𣚣櫛㰘次𣢧歔㱎歲殟"⟩,
  ⟨0x2F8F5, "殺殻𣪍𡴋𣫺汎𣲼沿泍汧洖派海流浩浸涅𣴞洴港湮㴳滋滇𣻑淹潮𣽞𣾎濆瀹瀞瀛㶖灊"⟩,
  ⟨0x2F918, "災灷炭𠔥煅𤉣熜𤎫爨爵牐𤘈犀犕𤜵𤠔獺王㺬玥㺸㺸瑇瑜瑱璅瓊㼛甤𤰶甾𤲒異𢆟瘐"⟩,
  ⟨0x2F93B, "𤾡𤾸𥁄㿼䀈直𥃳𥃲𥄙𥄳眞真真睊䀹瞋䁆䂖𥐝硎碌磌䃣𥘦祖𥚚𥛅福秫䄯穀穊穏𥥼𥪧"⟩,
  ⟨0x2F95E, "𥪧竮䈂𥮫篆築䈧𥲀糒䊠糨糣紀𥾆絣䌁緇縂繅䌴𦈨𦉇䍙𦋙罺𦌾羕翺者𦓚𦔣聠𦖨聰𣍟"⟩,
  ⟨0x2F981, "䏕育脃䐋脾媵𦞧𦞵𣎓𣎜舁舄辞䑫芑芋芝劳花芳芽苦𦬼若茝荣莭茣莽菧著荓菊菌菜"⟩,
  ⟨0x2F9A4, "𦰶𦵫𦳕䔫蓱蓳蔖𧏊蕤𦼬䕝䕡𦾱𧃒䕫虐虜虧虩蚩蚈蜎蛢蝹蜨蝫螆䗗蟡蠁䗹衠衣𧙧裗"⟩,
  ⟨0x2F9C7, "裞䘵裺㒻𧢮𧥦䚾䛇誠諭變豕𧲨貫賁贛起𧼯𠠄跋趼跰𠣞軔輸𨗒𨗭邔郱鄑𨜮鄛鈸鋗鋘"⟩,
  ⟨0x2F9EA, "鉼鏹鐕𨯺開䦕閷𨵷䧦雃嶲霣𩅅𩈚䩮䩶韠𩐊䪲𩒖頋頋頩𩖶飢䬳餩馧駂駾䯎𩬰鬒鱀鳽"⟩,
  ⟨0x2FA0D, "䳎䳭鵧𪃎䳸𪄅𪈎𪊑麻䵖黹黾鼅鼏鼖鼻𪘀"⟩]

/-- Code points that stand for several characters each, with spaces between what
stands for one and what stands for the next. -/
def textRuns : List ImageRun := [
  ⟨0xBC, "1⁄4 1⁄2 3⁄4"⟩, ⟨0x130, "i\u0307"⟩, ⟨0x132, "ij ij"⟩, ⟨0x13F, "l· l·"⟩, ⟨0x149, "ʼn"⟩,
  ⟨0x1C4, "dž dž dž lj lj lj nj nj nj"⟩, ⟨0x1F1, "dz dz dz"⟩, ⟨0x344, "\u0308\u0301"⟩,
  ⟨0x587, "եւ"⟩, ⟨0x675, "\u0627\u0674 \u0648\u0674 \u06C7\u0674 \u064A\u0674"⟩,
  ⟨0x958, "क\u093C ख\u093C ग\u093C ज\u093C ड\u093C ढ\u093C फ\u093C य\u093C"⟩,
  ⟨0x9DC, "ড\u09BC ঢ\u09BC"⟩, ⟨0x9DF, "য\u09BC"⟩, ⟨0xA33, "ਲ\u0A3C"⟩, ⟨0xA36, "ਸ\u0A3C"⟩,
  ⟨0xA59, "ਖ\u0A3C ਗ\u0A3C ਜ\u0A3C"⟩, ⟨0xA5E, "ਫ\u0A3C"⟩, ⟨0xB5C, "ଡ\u0B3C ଢ\u0B3C"⟩,
  ⟨0xE33, "\u0E4Dา"⟩, ⟨0xEB3, "\u0ECDາ"⟩, ⟨0xEDC, "ຫນ ຫມ"⟩, ⟨0xF43, "ག\u0FB7"⟩,
  ⟨0xF4D, "ཌ\u0FB7"⟩, ⟨0xF52, "ད\u0FB7"⟩, ⟨0xF57, "བ\u0FB7"⟩, ⟨0xF5C, "ཛ\u0FB7"⟩,
  ⟨0xF69, "ཀ\u0FB5"⟩, ⟨0xF73, "\u0F71\u0F72"⟩,
  ⟨0xF75, "\u0F71\u0F74 \u0FB2\u0F80 \u0FB2\u0F71\u0F80 \u0FB3\u0F80"⟩,
  ⟨0xF79, "\u0FB3\u0F71\u0F80"⟩, ⟨0xF81, "\u0F71\u0F80"⟩, ⟨0xF93, "\u0F92\u0FB7"⟩,
  ⟨0xF9D, "\u0F9C\u0FB7"⟩, ⟨0xFA2, "\u0FA1\u0FB7"⟩, ⟨0xFA7, "\u0FA6\u0FB7"⟩,
  ⟨0xFAC, "\u0FAB\u0FB7"⟩, ⟨0xFB9, "\u0F90\u0FB5"⟩, ⟨0x1E9A, "aʾ"⟩,
  ⟨0x1F80, "ἀι ἁι ἂι ἃι ἄι ἅι ἆι ἇι ἀι ἁι ἂι ἃι ἄι ἅι ἆι ἇι ἠι ἡι ἢι ἣι ἤι ἥι ἦι"⟩,
  ⟨0x1F97, "ἧι ἠι ἡι ἢι ἣι ἤι ἥι ἦι ἧι ὠι ὡι ὢι ὣι ὤι ὥι ὦι ὧι ὠι ὡι ὢι ὣι ὤι ὥι"⟩,
  ⟨0x1FAE, "ὦι ὧι"⟩, ⟨0x1FB2, "ὰι αι άι"⟩, ⟨0x1FB7, "ᾶι"⟩, ⟨0x1FBC, "αι"⟩, ⟨0x1FC2, "ὴι ηι ήι"⟩,
  ⟨0x1FC7, "ῆι"⟩, ⟨0x1FCC, "ηι"⟩, ⟨0x1FF2, "ὼι ωι ώι"⟩, ⟨0x1FF7, "ῶι"⟩, ⟨0x1FFC, "ωι"⟩,
  ⟨0x2033, "′′ ′′′"⟩, ⟨0x2036, "‵‵ ‵‵‵"⟩, ⟨0x203C, "!!"⟩, ⟨0x2057, "′′′′"⟩, ⟨0x20A8, "rs"⟩,
  ⟨0x2103, "°c"⟩, ⟨0x2109, "°f"⟩, ⟨0x2116, "no"⟩, ⟨0x2120, "sm tel tm"⟩, ⟨0x213B, "fax"⟩,
  ⟨0x2150, "1⁄7 1⁄9 1⁄10 1⁄3 2⁄3 1⁄5 2⁄5 3⁄5 4⁄5 1⁄6 5⁄6 1⁄8 3⁄8 5⁄8 7⁄8 1⁄"⟩,
  ⟨0x2161, "ii iii iv"⟩, ⟨0x2165, "vi vii viii ix"⟩, ⟨0x216A, "xi xii"⟩, ⟨0x2171, "ii iii iv"⟩,
  ⟨0x2175, "vi vii viii ix"⟩, ⟨0x217A, "xi xii"⟩, ⟨0x2189, "0⁄3"⟩, ⟨0x222C, "∫∫ ∫∫∫"⟩,
  ⟨0x222F, "∮∮ ∮∮∮"⟩,
  ⟨0x2469, "10 11 12 13 14 15 16 17 18 19 20 (1) (2) (3) (4) (5) (6) (7) (8) (9)"⟩,
  ⟨0x247D, "(10) (11) (12) (13) (14) (15) (16) (17) (18) (19) (20)"⟩,
  ⟨0x249C, "(a) (b) (c) (d) (e) (f) (g) (h) (i) (j) (k) (l) (m) (n) (o) (p) (q)"⟩,
  ⟨0x24AD, "(r) (s) (t) (u) (v) (w) (x) (y) (z)"⟩, ⟨0x2A0C, "∫∫∫∫"⟩, ⟨0x2A75, "== ==="⟩,
  ⟨0x2ADC, "⫝\u0338"⟩, ⟨0x309F, "より"⟩, ⟨0x30FF, "コト"⟩,
  ⟨0x3200, "(ᄀ) (ᄂ) (ᄃ) (ᄅ) (ᄆ) (ᄇ) (ᄉ) (ᄋ) (ᄌ) (ᄎ) (ᄏ) (ᄐ) (ᄑ) (ᄒ)"⟩,
  ⟨0x320E, "(가) (나) (다) (라) (마) (바) (사) (아) (자) (차) (카) (타) (파) (하)"⟩,
  ⟨0x321C, "(주) (오전) (오후)"⟩,
  ⟨0x3220, "(一) (二) (三) (四) (五) (六) (七) (八) (九) (十) (月) (火) (水) (木)"⟩,
  ⟨0x322E, "(金) (土) (日) (株) (有) (社) (名) (特) (財) (祝) (労) (代) (呼) (学)"⟩,
  ⟨0x323C, "(監) (企) (資) (協) (祭) (休) (自) (至)"⟩,
  ⟨0x3250, "pte 21 22 23 24 25 26 27 28 29 30 31 32 33 34 35"⟩, ⟨0x327C, "참고 주의"⟩,
  ⟨0x32B1, "36 37 38 39 40 41 42 43 44 45 46 47 48 49 50 1月 2月 3月 4月 5月 6月"⟩,
  ⟨0x32C6, "7月 8月 9月 10月 11月 12月 hg erg ev ltd"⟩,
  ⟨0x32FF, "令和 アパート アルファ アンペア アール イニング インチ ウォン"⟩,
  ⟨0x3307, "エスクード エーカー オンス オーム カイリ カラット カロリー ガロン"⟩,
  ⟨0x330F, "ガンマ ギガ ギニー キュリー ギルダー キロ キログラム キロメートル"⟩,
  ⟨0x3317, "キロワット グラム グラムトン クルゼイロ クローネ ケース コルナ コーポ"⟩,
  ⟨0x331F, "サイクル サンチーム シリング センチ セント ダース デシ ドル トン ナノ"⟩,
  ⟨0x3329, "ノット ハイツ パーセント パーツ バーレル ピアストル ピクル ピコ ビル"⟩,
  ⟨0x3332, "ファラッド フィート ブッシェル フラン ヘクタール ペソ ペニヒ ヘルツ"⟩,
  ⟨0x333A, "ペンス ページ ベータ ポイント ボルト ホン ポンド ホール ホーン"⟩,
  ⟨0x3343, "マイクロ マイル マッハ マルク マンション ミクロン ミリ ミリバール メガ"⟩,
  ⟨0x334C, "メガトン メートル ヤード ヤール ユアン リットル リラ ルピー ルーブル"⟩,
  ⟨0x3355, "レム レントゲン ワット 0点 1点 2点 3点 4点 5点 6点 7点 8点 9点 10点"⟩,
  ⟨0x3363, "11点 12点 13点 14点 15点 16点 17点 18点 19点 20点 21点 22点 23点 24点"⟩,
  ⟨0x3371, "hpa da au bar ov pc dm dm2 dm3 iu 平成 昭和 大正 明治 株式会社 pa na"⟩,
  ⟨0x3382, "μa ma ka kb mb gb cal kcal pf nf μf μg mg kg hz khz mhz ghz thz μl ml"⟩,
  ⟨0x3397, "dl kl fm nm μm mm cm km mm2 cm2 m2 km2 mm3 cm3 m3 km3 m∕s m∕s2 pa kpa"⟩,
  ⟨0x33AB, "mpa gpa rad rad∕s rad∕s2 ps ns μs ms pv nv μv mv kv mv pw nw μw mw kw"⟩,
  ⟨0x33BF, "mw kω mω"⟩, ⟨0x33C3, "bq cc cd c∕kg"⟩,
  ⟨0x33C8, "db gy ha hp in kk km kt lm ln log lx mb mil mol ph"⟩,
  ⟨0x33D9, "ppm pr sr sv wb v∕m a∕m 1日 2日 3日 4日 5日 6日 7日 8日 9日 10日 11日"⟩,
  ⟨0x33EB, "12日 13日 14日 15日 16日 17日 18日 19日 20日 21日 22日 23日 24日 25日"⟩,
  ⟨0x33F9, "26日 27日 28日 29日 30日 31日 gal"⟩, ⟨0xFB00, "ff fi fl ffi ffl st st"⟩,
  ⟨0xFB13, "մն մե մի վն մխ"⟩, ⟨0xFB1D, "\u05D9\u05B4"⟩, ⟨0xFB1F, "\u05F2\u05B7"⟩,
  ⟨0xFB2A, "\u05E9\u05C1 \u05E9\u05C2 \u05E9\u05BC\u05C1 \u05E9\u05BC\u05C2"⟩,
  ⟨0xFB2E, "\u05D0\u05B7 \u05D0\u05B8 \u05D0\u05BC \u05D1\u05BC \u05D2\u05BC"⟩,
  ⟨0xFB33, "\u05D3\u05BC \u05D4\u05BC \u05D5\u05BC \u05D6\u05BC"⟩,
  ⟨0xFB38, "\u05D8\u05BC \u05D9\u05BC \u05DA\u05BC \u05DB\u05BC \u05DC\u05BC"⟩,
  ⟨0xFB3E, "\u05DE\u05BC"⟩, ⟨0xFB40, "\u05E0\u05BC \u05E1\u05BC"⟩,
  ⟨0xFB43, "\u05E3\u05BC \u05E4\u05BC"⟩,
  ⟨0xFB46, "\u05E6\u05BC \u05E7\u05BC \u05E8\u05BC \u05E9\u05BC \u05EA\u05BC"⟩,
  ⟨0xFB4B, "\u05D5\u05B9 \u05D1\u05BF \u05DB\u05BF \u05E4\u05BF \u05D0\u05DC"⟩,
  ⟨0xFBDD, "\u06C7\u0674"⟩,
  ⟨0xFBEA, "\u0626\u0627 \u0626\u0627 \u0626\u06D5 \u0626\u06D5 \u0626\u0648"⟩,
  ⟨0xFBEF, "\u0626\u0648 \u0626\u06C7 \u0626\u06C7 \u0626\u06C6 \u0626\u06C6"⟩,
  ⟨0xFBF4, "\u0626\u06C8 \u0626\u06C8 \u0626\u06D0 \u0626\u06D0 \u0626\u06D0"⟩,
  ⟨0xFBF9, "\u0626\u0649 \u0626\u0649 \u0626\u0649"⟩,
  ⟨0xFC00, "\u0626\u062C \u0626\u062D \u0626\u0645 \u0626\u0649 \u0626\u064A"⟩,
  ⟨0xFC05, "\u0628\u062C \u0628\u062D \u0628\u062E \u0628\u0645 \u0628\u0649"⟩,
  ⟨0xFC0A, "\u0628\u064A \u062A\u062C \u062A\u062D \u062A\u062E \u062A\u0645"⟩,
  ⟨0xFC0F, "\u062A\u0649 \u062A\u064A \u062B\u062C \u062B\u0645 \u062B\u0649"⟩,
  ⟨0xFC14, "\u062B\u064A \u062C\u062D \u062C\u0645 \u062D\u062C \u062D\u0645"⟩,
  ⟨0xFC19, "\u062E\u062C \u062E\u062D \u062E\u0645 \u0633\u062C \u0633\u062D"⟩,
  ⟨0xFC1E, "\u0633\u062E \u0633\u0645 \u0635\u062D \u0635\u0645 \u0636\u062C"⟩,
  ⟨0xFC23, "\u0636\u062D \u0636\u062E \u0636\u0645 \u0637\u062D \u0637\u0645"⟩,
  ⟨0xFC28, "\u0638\u0645 \u0639\u062C \u0639\u0645 \u063A\u062C \u063A\u0645"⟩,
  ⟨0xFC2D, "\u0641\u062C \u0641\u062D \u0641\u062E \u0641\u0645 \u0641\u0649"⟩,
  ⟨0xFC32, "\u0641\u064A \u0642\u062D \u0642\u0645 \u0642\u0649 \u0642\u064A"⟩,
  ⟨0xFC37, "\u0643\u0627 \u0643\u062C \u0643\u062D \u0643\u062E \u0643\u0644"⟩,
  ⟨0xFC3C, "\u0643\u0645 \u0643\u0649 \u0643\u064A \u0644\u062C \u0644\u062D"⟩,
  ⟨0xFC41, "\u0644\u062E \u0644\u0645 \u0644\u0649 \u0644\u064A \u0645\u062C"⟩,
  ⟨0xFC46, "\u0645\u062D \u0645\u062E \u0645\u0645 \u0645\u0649 \u0645\u064A"⟩,
  ⟨0xFC4B, "\u0646\u062C \u0646\u062D \u0646\u062E \u0646\u0645 \u0646\u0649"⟩,
  ⟨0xFC50, "\u0646\u064A \u0647\u062C \u0647\u0645 \u0647\u0649 \u0647\u064A"⟩,
  ⟨0xFC55, "\u064A\u062C \u064A\u062D \u064A\u062E \u064A\u0645 \u064A\u0649"⟩,
  ⟨0xFC5A, "\u064A\u064A \u0630\u0670 \u0631\u0670 \u0649\u0670"⟩,
  ⟨0xFC64, "\u0626\u0631 \u0626\u0632 \u0626\u0645 \u0626\u0646 \u0626\u0649"⟩,
  ⟨0xFC69, "\u0626\u064A \u0628\u0631 \u0628\u0632 \u0628\u0645 \u0628\u0646"⟩,
  ⟨0xFC6E, "\u0628\u0649 \u0628\u064A \u062A\u0631 \u062A\u0632 \u062A\u0645"⟩,
  ⟨0xFC73, "\u062A\u0646 \u062A\u0649 \u062A\u064A \u062B\u0631 \u062B\u0632"⟩,
  ⟨0xFC78, "\u062B\u0645 \u062B\u0646 \u062B\u0649 \u062B\u064A \u0641\u0649"⟩,
  ⟨0xFC7D, "\u0641\u064A \u0642\u0649 \u0642\u064A \u0643\u0627 \u0643\u0644"⟩,
  ⟨0xFC82, "\u0643\u0645 \u0643\u0649 \u0643\u064A \u0644\u0645 \u0644\u0649"⟩,
  ⟨0xFC87, "\u0644\u064A \u0645\u0627 \u0645\u0645 \u0646\u0631 \u0646\u0632"⟩,
  ⟨0xFC8C, "\u0646\u0645 \u0646\u0646 \u0646\u0649 \u0646\u064A \u0649\u0670"⟩,
  ⟨0xFC91, "\u064A\u0631 \u064A\u0632 \u064A\u0645 \u064A\u0646 \u064A\u0649"⟩,
  ⟨0xFC96, "\u064A\u064A \u0626\u062C \u0626\u062D \u0626\u062E \u0626\u0645"⟩,
  ⟨0xFC9B, "\u0626\u0647 \u0628\u062C \u0628\u062D \u0628\u062E \u0628\u0645"⟩,
  ⟨0xFCA0, "\u0628\u0647 \u062A\u062C \u062A\u062D \u062A\u062E \u062A\u0645"⟩,
  ⟨0xFCA5, "\u062A\u0647 \u062B\u0645 \u062C\u062D \u062C\u0645 \u062D\u062C"⟩,
  ⟨0xFCAA, "\u062D\u0645 \u062E\u062C \u062E\u0645 \u0633\u062C \u0633\u062D"⟩,
  ⟨0xFCAF, "\u0633\u062E \u0633\u0645 \u0635\u062D \u0635\u062E \u0635\u0645"⟩,
  ⟨0xFCB4, "\u0636\u062C \u0636\u062D \u0636\u062E \u0636\u0645 \u0637\u062D"⟩,
  ⟨0xFCB9, "\u0638\u0645 \u0639\u062C \u0639\u0645 \u063A\u062C \u063A\u0645"⟩,
  ⟨0xFCBE, "\u0641\u062C \u0641\u062D \u0641\u062E \u0641\u0645 \u0642\u062D"⟩,
  ⟨0xFCC3, "\u0642\u0645 \u0643\u062C \u0643\u062D \u0643\u062E \u0643\u0644"⟩,
  ⟨0xFCC8, "\u0643\u0645 \u0644\u062C \u0644\u062D \u0644\u062E \u0644\u0645"⟩,
  ⟨0xFCCD, "\u0644\u0647 \u0645\u062C \u0645\u062D \u0645\u062E \u0645\u0645"⟩,
  ⟨0xFCD2, "\u0646\u062C \u0646\u062D \u0646\u062E \u0646\u0645 \u0646\u0647"⟩,
  ⟨0xFCD7, "\u0647\u062C \u0647\u0645 \u0647\u0670 \u064A\u062C \u064A\u062D"⟩,
  ⟨0xFCDC, "\u064A\u062E \u064A\u0645 \u064A\u0647 \u0626\u0645 \u0626\u0647"⟩,
  ⟨0xFCE1, "\u0628\u0645 \u0628\u0647 \u062A\u0645 \u062A\u0647 \u062B\u0645"⟩,
  ⟨0xFCE6, "\u062B\u0647 \u0633\u0645 \u0633\u0647 \u0634\u0645 \u0634\u0647"⟩,
  ⟨0xFCEB, "\u0643\u0644 \u0643\u0645 \u0644\u0645 \u0646\u0645 \u0646\u0647"⟩,
  ⟨0xFCF0, "\u064A\u0645 \u064A\u0647 \u0640\u064E\u0651 \u0640\u064F\u0651"⟩,
  ⟨0xFCF4, "\u0640\u0650\u0651 \u0637\u0649 \u0637\u064A \u0639\u0649 \u0639\u064A"⟩,
  ⟨0xFCF9, "\u063A\u0649 \u063A\u064A \u0633\u0649 \u0633\u064A \u0634\u0649"⟩,
  ⟨0xFCFE, "\u0634\u064A \u062D\u0649 \u062D\u064A \u062C\u0649 \u062C\u064A"⟩,
  ⟨0xFD03, "\u062E\u0649 \u062E\u064A \u0635\u0649 \u0635\u064A \u0636\u0649"⟩,
  ⟨0xFD08, "\u0636\u064A \u0634\u062C \u0634\u062D \u0634\u062E \u0634\u0645"⟩,
  ⟨0xFD0D, "\u0634\u0631 \u0633\u0631 \u0635\u0631 \u0636\u0631 \u0637\u0649"⟩,
  ⟨0xFD12, "\u0637\u064A \u0639\u0649 \u0639\u064A \u063A\u0649 \u063A\u064A"⟩,
  ⟨0xFD17, "\u0633\u0649 \u0633\u064A \u0634\u0649 \u0634\u064A \u062D\u0649"⟩,
  ⟨0xFD1C, "\u062D\u064A \u062C\u0649 \u062C\u064A \u062E\u0649 \u062E\u064A"⟩,
  ⟨0xFD21, "\u0635\u0649 \u0635\u064A \u0636\u0649 \u0636\u064A \u0634\u062C"⟩,
  ⟨0xFD26, "\u0634\u062D \u0634\u062E \u0634\u0645 \u0634\u0631 \u0633\u0631"⟩,
  ⟨0xFD2B, "\u0635\u0631 \u0636\u0631 \u0634\u062C \u0634\u062D \u0634\u062E"⟩,
  ⟨0xFD30, "\u0634\u0645 \u0633\u0647 \u0634\u0647 \u0637\u0645 \u0633\u062C"⟩,
  ⟨0xFD35, "\u0633\u062D \u0633\u062E \u0634\u062C \u0634\u062D \u0634\u062E"⟩,
  ⟨0xFD3A, "\u0637\u0645 \u0638\u0645 \u0627\u064B \u0627\u064B"⟩,
  ⟨0xFD50, "\u062A\u062C\u0645 \u062A\u062D\u062C \u062A\u062D\u062C"⟩,
  ⟨0xFD53, "\u062A\u062D\u0645 \u062A\u062E\u0645 \u062A\u0645\u062C"⟩,
  ⟨0xFD56, "\u062A\u0645\u062D \u062A\u0645\u062E \u062C\u0645\u062D"⟩,
  ⟨0xFD59, "\u062C\u0645\u062D \u062D\u0645\u064A \u062D\u0645\u0649"⟩,
  ⟨0xFD5C, "\u0633\u062D\u062C \u0633\u062C\u062D \u0633\u062C\u0649"⟩,
  ⟨0xFD5F, "\u0633\u0645\u062D \u0633\u0645\u062D \u0633\u0645\u062C"⟩,
  ⟨0xFD62, "\u0633\u0645\u0645 \u0633\u0645\u0645 \u0635\u062D\u062D"⟩,
  ⟨0xFD65, "\u0635\u062D\u062D \u0635\u0645\u0645 \u0634\u062D\u0645"⟩,
  ⟨0xFD68, "\u0634\u062D\u0645 \u0634\u062C\u064A \u0634\u0645\u062E"⟩,
  ⟨0xFD6B, "\u0634\u0645\u062E \u0634\u0645\u0645 \u0634\u0645\u0645"⟩,
  ⟨0xFD6E, "\u0636\u062D\u0649 \u0636\u062E\u0645 \u0636\u062E\u0645"⟩,
  ⟨0xFD71, "\u0637\u0645\u062D \u0637\u0645\u062D \u0637\u0645\u0645"⟩,
  ⟨0xFD74, "\u0637\u0645\u064A \u0639\u062C\u0645 \u0639\u0645\u0645"⟩,
  ⟨0xFD77, "\u0639\u0645\u0645 \u0639\u0645\u0649 \u063A\u0645\u0645"⟩,
  ⟨0xFD7A, "\u063A\u0645\u064A \u063A\u0645\u0649 \u0641\u062E\u0645"⟩,
  ⟨0xFD7D, "\u0641\u062E\u0645 \u0642\u0645\u062D \u0642\u0645\u0645"⟩,
  ⟨0xFD80, "\u0644\u062D\u0645 \u0644\u062D\u064A \u0644\u062D\u0649"⟩,
  ⟨0xFD83, "\u0644\u062C\u062C \u0644\u062C\u062C \u0644\u062E\u0645"⟩,
  ⟨0xFD86, "\u0644\u062E\u0645 \u0644\u0645\u062D \u0644\u0645\u062D"⟩,
  ⟨0xFD89, "\u0645\u062D\u062C \u0645\u062D\u0645 \u0645\u062D\u064A"⟩,
  ⟨0xFD8C, "\u0645\u062C\u062D \u0645\u062C\u0645 \u0645\u062E\u062C"⟩,
  ⟨0xFD8F, "\u0645\u062E\u0645"⟩,
  ⟨0xFD92, "\u0645\u062C\u062E \u0647\u0645\u062C \u0647\u0645\u0645"⟩,
  ⟨0xFD95, "\u0646\u062D\u0645 \u0646\u062D\u0649 \u0646\u062C\u0645"⟩,
  ⟨0xFD98, "\u0646\u062C\u0645 \u0646\u062C\u0649 \u0646\u0645\u064A"⟩,
  ⟨0xFD9B, "\u0646\u0645\u0649 \u064A\u0645\u0645 \u064A\u0645\u0645"⟩,
  ⟨0xFD9E, "\u0628\u062E\u064A \u062A\u062C\u064A \u062A\u062C\u0649"⟩,
  ⟨0xFDA1, "\u062A\u062E\u064A \u062A\u062E\u0649 \u062A\u0645\u064A"⟩,
  ⟨0xFDA4, "\u062A\u0645\u0649 \u062C\u0645\u064A \u062C\u062D\u0649"⟩,
  ⟨0xFDA7, "\u062C\u0645\u0649 \u0633\u062E\u0649 \u0635\u062D\u064A"⟩,
  ⟨0xFDAA, "\u0634\u062D\u064A \u0636\u062D\u064A \u0644\u062C\u064A"⟩,
  ⟨0xFDAD, "\u0644\u0645\u064A \u064A\u062D\u064A \u064A\u062C\u064A"⟩,
  ⟨0xFDB0, "\u064A\u0645\u064A \u0645\u0645\u064A \u0642\u0645\u064A"⟩,
  ⟨0xFDB3, "\u0646\u062D\u064A \u0642\u0645\u062D \u0644\u062D\u0645"⟩,
  ⟨0xFDB6, "\u0639\u0645\u064A \u0643\u0645\u064A \u0646\u062C\u062D"⟩,
  ⟨0xFDB9, "\u0645\u062E\u064A \u0644\u062C\u0645 \u0643\u0645\u0645"⟩,
  ⟨0xFDBC, "\u0644\u062C\u0645 \u0646\u062C\u062D \u062C\u062D\u064A"⟩,
  ⟨0xFDBF, "\u062D\u062C\u064A \u0645\u062C\u064A \u0641\u0645\u064A"⟩,
  ⟨0xFDC2, "\u0628\u062D\u064A \u0643\u0645\u0645 \u0639\u062C\u0645"⟩,
  ⟨0xFDC5, "\u0635\u0645\u0645 \u0633\u062E\u064A \u0646\u062C\u064A"⟩,
  ⟨0xFDF0, "\u0635\u0644\u06D2 \u0642\u0644\u06D2 \u0627\u0644\u0644\u0647"⟩,
  ⟨0xFDF3, "\u0627\u0643\u0628\u0631 \u0645\u062D\u0645\u062F"⟩,
  ⟨0xFDF5, "\u0635\u0644\u0639\u0645 \u0631\u0633\u0648\u0644"⟩,
  ⟨0xFDF7, "\u0639\u0644\u064A\u0647 \u0648\u0633\u0644\u0645 \u0635\u0644\u0649"⟩,
  ⟨0xFDFC, "\u0631\u06CC\u0627\u0644"⟩, ⟨0xFE71, "\u0640\u064B"⟩, ⟨0xFE77, "\u0640\u064E"⟩,
  ⟨0xFE79, "\u0640\u064F"⟩, ⟨0xFE7B, "\u0640\u0650"⟩, ⟨0xFE7D, "\u0640\u0651"⟩,
  ⟨0xFE7F, "\u0640\u0652"⟩,
  ⟨0xFEF5, "\u0644\u0622 \u0644\u0622 \u0644\u0623 \u0644\u0623 \u0644\u0625"⟩,
  ⟨0xFEFA, "\u0644\u0625 \u0644\u0627 \u0644\u0627"⟩, ⟨0x1D15E, "𝅗𝅥 𝅘𝅥 𝅘𝅥𝅮 𝅘𝅥𝅯 𝅘𝅥𝅰 𝅘𝅥𝅱 𝅘𝅥𝅲"⟩,
  ⟨0x1D1BB, "𝆹𝅥 𝆺𝅥 𝆹𝅥𝅮 𝆺𝅥𝅮 𝆹𝅥𝅯 𝆺𝅥𝅯"⟩, ⟨0x1F101, "0, 1, 2, 3, 4, 5, 6, 7, 8, 9,"⟩,
  ⟨0x1F110, "(a) (b) (c) (d) (e) (f) (g) (h) (i) (j) (k) (l) (m) (n) (o) (p) (q)"⟩,
  ⟨0x1F121, "(r) (s) (t) (u) (v) (w) (x) (y) (z) 〔s〕"⟩, ⟨0x1F12D, "cd wz"⟩,
  ⟨0x1F14A, "hv mv sd ss ppv wc"⟩, ⟨0x1F16A, "mc md mr"⟩, ⟨0x1F190, "dj"⟩, ⟨0x1F200, "ほか ココ"⟩,
  ⟨0x1F240, "〔本〕 〔三〕 〔二〕 〔安〕 〔点〕 〔打〕 〔盗〕 〔勝〕 〔敗〕"⟩]

end DnsReconcile.DomainName
