import ModuleDocs.Text.Quoted

/-! # Numbered names

    Runs of code points whose names differ in nothing but a number that
    counts up. -/

namespace ModuleDocs.CharacterName

/-- Names with a number at their end. -/
structure Series where
  /-- The first code point, how many there are, and what stands before the number. -/
  first : Nat
  count : Nat
  start : String
  /-- The first number, how many digits a number has at least, and their base. -/
  number : Nat
  width : Nat
  base : Nat
deriving DecidableEq, Repr

/-- The series that names of code points form. -/
def seriesList : List Series := [
  ⟨0x1069, 5, "MYANMAR SIGN WESTERN PWO KAREN TONE-", 1, 0, 10⟩,
  ⟨0x1970, 5, "TAI LE LETTER TONE-", 2, 0, 10⟩,
  ⟨0x2680, 6, "DIE FACE-", 1, 0, 10⟩,
  ⟨0xF900, 366, "CJK COMPATIBILITY IDEOGRAPH-", 0xF900, 0, 16⟩,
  ⟨0xFA70, 106, "CJK COMPATIBILITY IDEOGRAPH-", 0xFA70, 0, 16⟩,
  ⟨0xFE00, 16, "VARIATION SELECTOR-", 1, 0, 10⟩,
  ⟨0xFE00, 16, "VS", 1, 0, 10⟩,
  ⟨0x100AC, 9, "LINEAR B IDEOGRAM B", 164, 0, 10⟩,
  ⟨0x100B8, 9, "LINEAR B IDEOGRAM B", 177, 0, 10⟩,
  ⟨0x100D9, 5, "LINEAR B IDEOGRAM B", 255, 0, 10⟩,
  ⟨0x100DF, 20, "LINEAR B IDEOGRAM VESSEL B", 200, 0, 10⟩,
  ⟨0x10600, 11, "LINEAR A SIGN AB", 1, 3, 10⟩,
  ⟨0x10620, 5, "LINEAR A SIGN AB", 37, 3, 10⟩,
  ⟨0x10625, 8, "LINEAR A SIGN AB", 44, 3, 10⟩,
  ⟨0x1062D, 9, "LINEAR A SIGN AB", 53, 3, 10⟩,
  ⟨0x1063D, 7, "LINEAR A SIGN AB", 76, 3, 10⟩,
  ⟨0x10655, 8, "LINEAR A SIGN A", 301, 0, 10⟩,
  ⟨0x10666, 58, "LINEAR A SIGN A", 314, 0, 10⟩,
  ⟨0x106B3, 6, "LINEAR A SIGN A", 501, 0, 10⟩,
  ⟨0x106B9, 6, "LINEAR A SIGN A", 508, 0, 10⟩,
  ⟨0x106C3, 10, "LINEAR A SIGN A", 523, 0, 10⟩,
  ⟨0x106CD, 9, "LINEAR A SIGN A", 534, 0, 10⟩,
  ⟨0x106D7, 11, "LINEAR A SIGN A", 547, 0, 10⟩,
  ⟨0x106E7, 22, "LINEAR A SIGN A", 568, 0, 10⟩,
  ⟨0x10703, 5, "LINEAR A SIGN A", 600, 0, 10⟩,
  ⟨0x10709, 17, "LINEAR A SIGN A", 608, 0, 10⟩,
  ⟨0x10722, 5, "LINEAR A SIGN A", 642, 0, 10⟩,
  ⟨0x10729, 14, "LINEAR A SIGN A", 651, 0, 10⟩,
  ⟨0x10760, 8, "LINEAR A SIGN A", 800, 0, 10⟩,
  ⟨0x12F92, 9, "CYPRO-MINOAN SIGN CM", 4, 3, 10⟩,
  ⟨0x12FA1, 8, "CYPRO-MINOAN SIGN CM", 23, 3, 10⟩,
  ⟨0x12FA9, 9, "CYPRO-MINOAN SIGN CM", 33, 3, 10⟩,
  ⟨0x12FB5, 8, "CYPRO-MINOAN SIGN CM", 49, 3, 10⟩,
  ⟨0x12FBD, 7, "CYPRO-MINOAN SIGN CM", 58, 3, 10⟩,
  ⟨0x12FC4, 10, "CYPRO-MINOAN SIGN CM", 66, 3, 10⟩,
  ⟨0x12FD0, 15, "CYPRO-MINOAN SIGN CM", 78, 3, 10⟩,
  ⟨0x12FDF, 12, "CYPRO-MINOAN SIGN CM", 94, 3, 10⟩,
  ⟨0x13000, 5, "EGYPTIAN HIEROGLYPH A", 1, 3, 10⟩,
  ⟨0x13009, 8, "EGYPTIAN HIEROGLYPH A", 7, 3, 10⟩,
  ⟨0x13016, 15, "EGYPTIAN HIEROGLYPH A", 18, 3, 10⟩,
  ⟨0x13026, 8, "EGYPTIAN HIEROGLYPH A", 33, 3, 10⟩,
  ⟨0x13037, 25, "EGYPTIAN HIEROGLYPH A", 46, 3, 10⟩,
  ⟨0x13050, 5, "EGYPTIAN HIEROGLYPH B", 1, 3, 10⟩,
  ⟨0x1305F, 8, "EGYPTIAN HIEROGLYPH C", 3, 3, 10⟩,
  ⟨0x13068, 14, "EGYPTIAN HIEROGLYPH C", 11, 3, 10⟩,
  ⟨0x13076, 8, "EGYPTIAN HIEROGLYPH D", 1, 3, 10⟩,
  ⟨0x1307F, 19, "EGYPTIAN HIEROGLYPH D", 9, 3, 10⟩,
  ⟨0x1309C, 12, "EGYPTIAN HIEROGLYPH D", 35, 3, 10⟩,
  ⟨0x130BD, 13, "EGYPTIAN HIEROGLYPH D", 55, 3, 10⟩,
  ⟨0x130D2, 8, "EGYPTIAN HIEROGLYPH E", 1, 3, 10⟩,
  ⟨0x130DD, 7, "EGYPTIAN HIEROGLYPH E", 10, 3, 10⟩,
  ⟨0x130EB, 8, "EGYPTIAN HIEROGLYPH E", 21, 3, 10⟩,
  ⟨0x130F4, 6, "EGYPTIAN HIEROGLYPH E", 29, 3, 10⟩,
  ⟨0x13100, 12, "EGYPTIAN HIEROGLYPH F", 2, 3, 10⟩,
  ⟨0x1310D, 8, "EGYPTIAN HIEROGLYPH F", 14, 3, 10⟩,
  ⟨0x13116, 10, "EGYPTIAN HIEROGLYPH F", 22, 3, 10⟩,
  ⟨0x13121, 6, "EGYPTIAN HIEROGLYPH F", 32, 3, 10⟩,
  ⟨0x1312A, 7, "EGYPTIAN HIEROGLYPH F", 39, 3, 10⟩,
  ⟨0x1313F, 6, "EGYPTIAN HIEROGLYPH G", 1, 3, 10⟩,
  ⟨0x1314E, 9, "EGYPTIAN HIEROGLYPH G", 12, 3, 10⟩,
  ⟨0x13158, 6, "EGYPTIAN HIEROGLYPH G", 21, 3, 10⟩,
  ⟨0x1315F, 10, "EGYPTIAN HIEROGLYPH G", 27, 3, 10⟩,
  ⟨0x1316C, 6, "EGYPTIAN HIEROGLYPH G", 38, 3, 10⟩,
  ⟨0x13176, 9, "EGYPTIAN HIEROGLYPH G", 46, 3, 10⟩,
  ⟨0x1317F, 6, "EGYPTIAN HIEROGLYPH H", 1, 3, 10⟩,
  ⟨0x13188, 5, "EGYPTIAN HIEROGLYPH I", 1, 3, 10⟩,
  ⟨0x1319B, 8, "EGYPTIAN HIEROGLYPH K", 1, 3, 10⟩,
  ⟨0x131B3, 7, "EGYPTIAN HIEROGLYPH M", 4, 3, 10⟩,
  ⟨0x131CD, 5, "EGYPTIAN HIEROGLYPH M", 18, 3, 10⟩,
  ⟨0x131E3, 7, "EGYPTIAN HIEROGLYPH M", 34, 3, 10⟩,
  ⟨0x131EF, 18, "EGYPTIAN HIEROGLYPH N", 1, 3, 10⟩,
  ⟨0x13203, 7, "EGYPTIAN HIEROGLYPH N", 19, 3, 10⟩,
  ⟨0x1320B, 8, "EGYPTIAN HIEROGLYPH N", 26, 3, 10⟩,
  ⟨0x1321B, 5, "EGYPTIAN HIEROGLYPH N", 38, 3, 10⟩,
  ⟨0x13220, 5, "EGYPTIAN HIEROGLYPH NL", 1, 3, 10⟩,
  ⟨0x13226, 12, "EGYPTIAN HIEROGLYPH NL", 6, 3, 10⟩,
  ⟨0x13236, 10, "EGYPTIAN HIEROGLYPH NU", 1, 3, 10⟩,
  ⟨0x13243, 7, "EGYPTIAN HIEROGLYPH NU", 12, 3, 10⟩,
  ⟨0x13265, 9, "EGYPTIAN HIEROGLYPH O", 11, 3, 10⟩,
  ⟨0x1328A, 14, "EGYPTIAN HIEROGLYPH O", 37, 3, 10⟩,
  ⟨0x132A0, 8, "EGYPTIAN HIEROGLYPH P", 4, 3, 10⟩,
  ⟨0x132A8, 7, "EGYPTIAN HIEROGLYPH Q", 1, 3, 10⟩,
  ⟨0x132B5, 7, "EGYPTIAN HIEROGLYPH R", 4, 3, 10⟩,
  ⟨0x132BD, 6, "EGYPTIAN HIEROGLYPH R", 11, 3, 10⟩,
  ⟨0x132C4, 13, "EGYPTIAN HIEROGLYPH R", 17, 3, 10⟩,
  ⟨0x132D9, 8, "EGYPTIAN HIEROGLYPH S", 7, 3, 10⟩,
  ⟨0x132E7, 9, "EGYPTIAN HIEROGLYPH S", 18, 3, 10⟩,
  ⟨0x132F2, 9, "EGYPTIAN HIEROGLYPH S", 27, 3, 10⟩,
  ⟨0x132FC, 11, "EGYPTIAN HIEROGLYPH S", 36, 3, 10⟩,
  ⟨0x13317, 5, "EGYPTIAN HIEROGLYPH T", 12, 3, 10⟩,
  ⟨0x1331D, 16, "EGYPTIAN HIEROGLYPH T", 17, 3, 10⟩,
  ⟨0x13333, 6, "EGYPTIAN HIEROGLYPH U", 1, 3, 10⟩,
  ⟨0x1333B, 17, "EGYPTIAN HIEROGLYPH U", 7, 3, 10⟩,
  ⟨0x1334D, 6, "EGYPTIAN HIEROGLYPH U", 24, 3, 10⟩,
  ⟨0x13358, 10, "EGYPTIAN HIEROGLYPH U", 33, 3, 10⟩,
  ⟨0x1336E, 5, "EGYPTIAN HIEROGLYPH V", 3, 3, 10⟩,
  ⟨0x1337F, 8, "EGYPTIAN HIEROGLYPH V", 13, 3, 10⟩,
  ⟨0x13397, 5, "EGYPTIAN HIEROGLYPH V", 24, 3, 10⟩,
  ⟨0x133B3, 6, "EGYPTIAN HIEROGLYPH W", 4, 3, 10⟩,
  ⟨0x133C7, 6, "EGYPTIAN HIEROGLYPH W", 19, 3, 10⟩,
  ⟨0x133DD, 7, "EGYPTIAN HIEROGLYPH Y", 2, 3, 10⟩,
  ⟨0x133F1, 10, "EGYPTIAN HIEROGLYPH Z", 6, 3, 10⟩,
  ⟨0x1340D, 7, "EGYPTIAN HIEROGLYPH AA", 1, 3, 10⟩,
  ⟨0x13416, 25, "EGYPTIAN HIEROGLYPH AA", 8, 3, 10⟩,
  ⟨0x14400, 10, "ANATOLIAN HIEROGLYPH A", 1, 3, 10⟩,
  ⟨0x1440B, 16, "ANATOLIAN HIEROGLYPH A", 11, 3, 10⟩,
  ⟨0x1441C, 13, "ANATOLIAN HIEROGLYPH A", 27, 3, 10⟩,
  ⟨0x14435, 20, "ANATOLIAN HIEROGLYPH A", 47, 3, 10⟩,
  ⟨0x1444C, 31, "ANATOLIAN HIEROGLYPH A", 67, 3, 10⟩,
  ⟨0x14487, 5, "ANATOLIAN HIEROGLYPH A", 111, 0, 10⟩,
  ⟨0x1448D, 10, "ANATOLIAN HIEROGLYPH A", 116, 0, 10⟩,
  ⟨0x14498, 10, "ANATOLIAN HIEROGLYPH A", 126, 0, 10⟩,
  ⟨0x144A3, 67, "ANATOLIAN HIEROGLYPH A", 136, 0, 10⟩,
  ⟨0x144E8, 5, "ANATOLIAN HIEROGLYPH A", 203, 0, 10⟩,
  ⟨0x144F1, 6, "ANATOLIAN HIEROGLYPH A", 210, 0, 10⟩,
  ⟨0x144FA, 11, "ANATOLIAN HIEROGLYPH A", 217, 0, 10⟩,
  ⟨0x14506, 40, "ANATOLIAN HIEROGLYPH A", 228, 0, 10⟩,
  ⟨0x1452F, 22, "ANATOLIAN HIEROGLYPH A", 268, 0, 10⟩,
  ⟨0x14546, 5, "ANATOLIAN HIEROGLYPH A", 290, 0, 10⟩,
  ⟨0x1454C, 5, "ANATOLIAN HIEROGLYPH A", 295, 0, 10⟩,
  ⟨0x14552, 10, "ANATOLIAN HIEROGLYPH A", 300, 0, 10⟩,
  ⟨0x1455D, 20, "ANATOLIAN HIEROGLYPH A", 310, 0, 10⟩,
  ⟨0x1457E, 23, "ANATOLIAN HIEROGLYPH A", 337, 0, 10⟩,
  ⟨0x14596, 5, "ANATOLIAN HIEROGLYPH A", 360, 0, 10⟩,
  ⟨0x145A5, 10, "ANATOLIAN HIEROGLYPH A", 372, 0, 10⟩,
  ⟨0x145B7, 6, "ANATOLIAN HIEROGLYPH A", 387, 0, 10⟩,
  ⟨0x145BE, 16, "ANATOLIAN HIEROGLYPH A", 394, 0, 10⟩,
  ⟨0x145D0, 40, "ANATOLIAN HIEROGLYPH A", 411, 0, 10⟩,
  ⟨0x145F9, 7, "ANATOLIAN HIEROGLYPH A", 451, 0, 10⟩,
  ⟨0x14601, 40, "ANATOLIAN HIEROGLYPH A", 458, 0, 10⟩,
  ⟨0x14629, 30, "ANATOLIAN HIEROGLYPH A", 501, 0, 10⟩,
  ⟨0x16F93, 7, "MIAO LETTER TONE-", 2, 0, 10⟩,
  ⟨0x18800, 768, "TANGUT COMPONENT-", 1, 3, 10⟩,
  ⟨0x18B00, 470, "KHITAN SMALL SCRIPT CHARACTER-", 0x18B00, 0, 16⟩,
  ⟨0x1AFF7, 5, "KATAKANA LETTER MINNAN NASALIZED TONE-", 1, 0, 10⟩,
  ⟨0x1B00A, 5, "HENTAIGANA LETTER U-", 1, 0, 10⟩,
  ⟨0x1B00F, 5, "HENTAIGANA LETTER E-", 2, 0, 10⟩,
  ⟨0x1B017, 11, "HENTAIGANA LETTER KA-", 1, 0, 10⟩,
  ⟨0x1B023, 8, "HENTAIGANA LETTER KI-", 1, 0, 10⟩,
  ⟨0x1B02B, 7, "HENTAIGANA LETTER KU-", 1, 0, 10⟩,
  ⟨0x1B032, 6, "HENTAIGANA LETTER KE-", 1, 0, 10⟩,
  ⟨0x1B03C, 8, "HENTAIGANA LETTER SA-", 1, 0, 10⟩,
  ⟨0x1B044, 6, "HENTAIGANA LETTER SI-", 1, 0, 10⟩,
  ⟨0x1B04A, 8, "HENTAIGANA LETTER SU-", 1, 0, 10⟩,
  ⟨0x1B052, 5, "HENTAIGANA LETTER SE-", 1, 0, 10⟩,
  ⟨0x1B057, 7, "HENTAIGANA LETTER SO-", 1, 0, 10⟩,
  ⟨0x1B062, 7, "HENTAIGANA LETTER TI-", 1, 0, 10⟩,
  ⟨0x1B06E, 9, "HENTAIGANA LETTER TE-", 1, 0, 10⟩,
  ⟨0x1B077, 6, "HENTAIGANA LETTER TO-", 1, 0, 10⟩,
  ⟨0x1B07E, 9, "HENTAIGANA LETTER NA-", 1, 0, 10⟩,
  ⟨0x1B087, 7, "HENTAIGANA LETTER NI-", 1, 0, 10⟩,
  ⟨0x1B092, 6, "HENTAIGANA LETTER NE-", 1, 0, 10⟩,
  ⟨0x1B099, 5, "HENTAIGANA LETTER NO-", 1, 0, 10⟩,
  ⟨0x1B09E, 11, "HENTAIGANA LETTER HA-", 1, 0, 10⟩,
  ⟨0x1B0A9, 7, "HENTAIGANA LETTER HI-", 1, 0, 10⟩,
  ⟨0x1B0B3, 7, "HENTAIGANA LETTER HE-", 1, 0, 10⟩,
  ⟨0x1B0BA, 8, "HENTAIGANA LETTER HO-", 1, 0, 10⟩,
  ⟨0x1B0C2, 7, "HENTAIGANA LETTER MA-", 1, 0, 10⟩,
  ⟨0x1B0C9, 7, "HENTAIGANA LETTER MI-", 1, 0, 10⟩,
  ⟨0x1B0D7, 6, "HENTAIGANA LETTER MO-", 1, 0, 10⟩,
  ⟨0x1B0DD, 5, "HENTAIGANA LETTER YA-", 1, 0, 10⟩,
  ⟨0x1B0E7, 6, "HENTAIGANA LETTER YO-", 1, 0, 10⟩,
  ⟨0x1B0F1, 7, "HENTAIGANA LETTER RI-", 1, 0, 10⟩,
  ⟨0x1B0F8, 6, "HENTAIGANA LETTER RU-", 1, 0, 10⟩,
  ⟨0x1B102, 6, "HENTAIGANA LETTER RO-", 1, 0, 10⟩,
  ⟨0x1B108, 5, "HENTAIGANA LETTER WA-", 1, 0, 10⟩,
  ⟨0x1B10D, 5, "HENTAIGANA LETTER WI-", 1, 0, 10⟩,
  ⟨0x1B116, 7, "HENTAIGANA LETTER WO-", 1, 0, 10⟩,
  ⟨0x1B170, 396, "NUSHU CHARACTER-", 0x1B170, 0, 16⟩,
  ⟨0x1D16E, 5, "MUSICAL SYMBOL COMBINING FLAG-", 1, 0, 10⟩,
  ⟨0x1D19B, 11, "MUSICAL SYMBOL ORNAMENT STROKE-", 1, 0, 10⟩,
  ⟨0x1D200, 24, "GREEK VOCAL NOTATION SYMBOL-", 1, 0, 10⟩,
  ⟨0x1D218, 5, "GREEK VOCAL NOTATION SYMBOL-", 50, 0, 10⟩,
  ⟨0x1D22A, 5, "GREEK INSTRUMENTAL NOTATION SYMBOL-", 23, 0, 10⟩,
  ⟨0x1D232, 5, "GREEK INSTRUMENTAL NOTATION SYMBOL-", 36, 0, 10⟩,
  ⟨0x1D23A, 8, "GREEK INSTRUMENTAL NOTATION SYMBOL-", 47, 0, 10⟩,
  ⟨0x1DA77, 7, "SIGNWRITING LIMB LENGTH-", 1, 0, 10⟩,
  ⟨0x1DA9B, 5, "SIGNWRITING FILL MODIFIER-", 2, 0, 10⟩,
  ⟨0x1DAA1, 15, "SIGNWRITING ROTATION MODIFIER-", 2, 0, 10⟩,
  ⟨0x1F031, 7, "DOMINO TILE HORIZONTAL-00-", 0, 2, 10⟩,
  ⟨0x1F038, 7, "DOMINO TILE HORIZONTAL-01-", 0, 2, 10⟩,
  ⟨0x1F03F, 7, "DOMINO TILE HORIZONTAL-02-", 0, 2, 10⟩,
  ⟨0x1F046, 7, "DOMINO TILE HORIZONTAL-03-", 0, 2, 10⟩,
  ⟨0x1F04D, 7, "DOMINO TILE HORIZONTAL-04-", 0, 2, 10⟩,
  ⟨0x1F054, 7, "DOMINO TILE HORIZONTAL-05-", 0, 2, 10⟩,
  ⟨0x1F05B, 7, "DOMINO TILE HORIZONTAL-06-", 0, 2, 10⟩,
  ⟨0x1F063, 7, "DOMINO TILE VERTICAL-00-", 0, 2, 10⟩,
  ⟨0x1F06A, 7, "DOMINO TILE VERTICAL-01-", 0, 2, 10⟩,
  ⟨0x1F071, 7, "DOMINO TILE VERTICAL-02-", 0, 2, 10⟩,
  ⟨0x1F078, 7, "DOMINO TILE VERTICAL-03-", 0, 2, 10⟩,
  ⟨0x1F07F, 7, "DOMINO TILE VERTICAL-04-", 0, 2, 10⟩,
  ⟨0x1F086, 7, "DOMINO TILE VERTICAL-05-", 0, 2, 10⟩,
  ⟨0x1F08D, 7, "DOMINO TILE VERTICAL-06-", 0, 2, 10⟩,
  ⟨0x1F0E1, 21, "PLAYING CARD TRUMP-", 1, 0, 10⟩,
  ⟨0x1FB70, 6, "VERTICAL ONE EIGHTH BLOCK-", 2, 0, 10⟩,
  ⟨0x1FB76, 6, "HORIZONTAL ONE EIGHTH BLOCK-", 2, 0, 10⟩,
  ⟨0x2F800, 542, "CJK COMPATIBILITY IDEOGRAPH-", 0x2F800, 0, 16⟩,
  ⟨0xE0100, 240, "VARIATION SELECTOR-", 17, 0, 10⟩,
  ⟨0xE0100, 240, "VS", 17, 0, 10⟩]

end ModuleDocs.CharacterName
