import ModuleDocs.Text.CodePage

/-! # Pages of the ISO 8859 family

    The parts of ISO 8859 keep the control characters of 0x80 to 0x9F; what
    differs is the bytes from 0xA0 on. -/

namespace ModuleDocs.CodePage

/-- The pages of this family. -/
def isoPages : List CodePage := [
  { name := "tis_620"
    aliases := ["tis620", "tis_620_0", "tis_620_2529_0", "tis_620_2529_1", "iso_ir_166"]
    first := 0xA0
    rows := [
      "\ufffe\u0e01\u0e02\u0e03\u0e04\u0e05\u0e06\u0e07",
      "\u0e08\u0e09\u0e0a\u0e0b\u0e0c\u0e0d\u0e0e\u0e0f",
      "\u0e10\u0e11\u0e12\u0e13\u0e14\u0e15\u0e16\u0e17",
      "\u0e18\u0e19\u0e1a\u0e1b\u0e1c\u0e1d\u0e1e\u0e1f",
      "\u0e20\u0e21\u0e22\u0e23\u0e24\u0e25\u0e26\u0e27",
      "\u0e28\u0e29\u0e2a\u0e2b\u0e2c\u0e2d\u0e2e\u0e2f",
      "\u0e30\u0e31\u0e32\u0e33\u0e34\u0e35\u0e36\u0e37",
      "\u0e38\u0e39\u0e3a\ufffe\ufffe\ufffe\ufffe฿",
      "\u0e40\u0e41\u0e42\u0e43\u0e44\u0e45\u0e46\u0e47",
      "\u0e48\u0e49\u0e4a\u0e4b\u0e4c\u0e4d\u0e4e๏",
      "๐๑๒๓๔๕๖๗๘๙๚๛\ufffe\ufffe\ufffe\ufffe"] },
  { name := "iso8859_2"
    aliases := ["csisolatin2", "iso_8859_2", "iso_8859_2_1987", "iso_ir_101", "l2", "latin2"]
    first := 0xA0
    rows := [
      "\u00a0Ą˘Ł¤ĽŚ§¨ŠŞŤŹ\u00adŽŻ",
      "°ą˛ł´ľś\u02c7¸šşťź˝žż",
      "ŔÁÂĂÄĹĆÇČÉĘËĚÍÎĎ",
      "ĐŃŇÓÔŐÖ×ŘŮÚŰÜÝŢß",
      "ŕáâăäĺćçčéęëěíîď",
      "đńňóôőö÷řůúűüýţ˙"] },
  { name := "iso8859_3"
    aliases := ["csisolatin3", "iso_8859_3", "iso_8859_3_1988", "iso_ir_109", "l3", "latin3"]
    first := 0xA0
    rows := [
      "\u00a0Ħ˘£¤\ufffeĤ§¨İŞĞĴ\u00ad\ufffeŻ",
      "°ħ²³´µĥ·¸ışğĵ½\ufffeż",
      "ÀÁÂ\ufffeÄĊĈÇÈÉÊËÌÍÎÏ",
      "\ufffeÑÒÓÔĠÖ×ĜÙÚÛÜŬŜß",
      "àáâ\ufffeäċĉçèéêëìíîï",
      "\ufffeñòóôġö÷ĝùúûüŭŝ˙"] },
  { name := "iso8859_4"
    aliases := ["csisolatin4", "iso_8859_4", "iso_8859_4_1988", "iso_ir_110", "l4", "latin4"]
    first := 0xA0
    rows := [
      "\u00a0ĄĸŖ¤ĨĻ§¨ŠĒĢŦ\u00adŽ¯",
      "°ą˛ŗ´ĩļ\u02c7¸šēģŧŊžŋ",
      "ĀÁÂÃÄÅÆĮČÉĘËĖÍÎĪ",
      "ĐŅŌĶÔÕÖ×ØŲÚÛÜŨŪß",
      "āáâãäåæįčéęëėíîī",
      "đņōķôõö÷øųúûüũū˙"] },
  { name := "iso8859_5"
    aliases := ["csisolatincyrillic", "cyrillic", "iso_8859_5", "iso_8859_5_1988", "iso_ir_144"]
    first := 0xA0
    rows := [
      "\u00a0ЁЂЃЄЅІЇЈЉЊЋЌ\u00adЎЏ",
      "АБВГДЕЖЗИЙКЛМНОП",
      "РСТУФХЦЧШЩЪЫЬЭЮЯ",
      "абвгдежзийклмноп",
      "рстуфхцчшщъыьэюя",
      "№ёђѓєѕіїјљњћќ§ўџ"] },
  { name := "iso8859_6"
    aliases := ["arabic", "asmo_708", "csisolatinarabic", "ecma_114", "iso_8859_6",
      "iso_8859_6_1987", "iso_ir_127"]
    first := 0xA0
    rows := [
      "\u00a0\ufffe\ufffe\ufffe¤\ufffe\ufffe\ufffe\ufffe\ufffe\ufffe\ufffe،\u00ad\ufffe\ufffe",
      "\ufffe\ufffe\ufffe\ufffe\ufffe\ufffe\ufffe\ufffe",
      "\ufffe\ufffe\ufffe\u061b\ufffe\ufffe\ufffe\u061f",
      "\ufffe\u0621\u0622\u0623\u0624\u0625\u0626\u0627",
      "\u0628\u0629\u062a\u062b\u062c\u062d\u062e\u062f",
      "\u0630\u0631\u0632\u0633\u0634\u0635\u0636\u0637",
      "\u0638\u0639\u063a\ufffe\ufffe\ufffe\ufffe\ufffe",
      "\u0640\u0641\u0642\u0643\u0644\u0645\u0646\u0647",
      "\u0648\u0649\u064a\u064b\u064c\u064d\u064e\u064f",
      "\u0650\u0651\u0652\ufffe\ufffe\ufffe\ufffe\ufffe",
      "\ufffe\ufffe\ufffe\ufffe\ufffe\ufffe\ufffe\ufffe"] },
  { name := "iso8859_7"
    aliases := ["csisolatingreek", "ecma_118", "elot_928", "greek", "greek8", "iso_8859_7",
      "iso_8859_7_1987", "iso_ir_126"]
    first := 0xA0
    rows := [
      "\u00a0‘’£€₯¦§¨©\u037a«¬\u00ad\ufffe―",
      "°±²³΄΅Ά·ΈΉΊ»Ό½ΎΏ",
      "ΐΑΒΓΔΕΖΗΘΙΚΛΜΝΞΟ",
      "ΠΡ\ufffeΣΤΥΦΧΨΩΪΫάέήί",
      "ΰαβγδεζηθικλμνξο",
      "πρςστυφχψωϊϋόύώ\ufffe"] },
  { name := "iso8859_8"
    aliases := ["csisolatinhebrew", "hebrew", "iso_8859_8", "iso_8859_8_1988", "iso_ir_138"]
    first := 0xA0
    rows := [
      "\u00a0\ufffe¢£¤¥¦§¨©×«¬\u00ad®¯",
      "°±²³´µ¶·¸¹÷»¼½¾\ufffe",
      "\ufffe\ufffe\ufffe\ufffe\ufffe\ufffe\ufffe\ufffe",
      "\ufffe\ufffe\ufffe\ufffe\ufffe\ufffe\ufffe\ufffe",
      "\ufffe\ufffe\ufffe\ufffe\ufffe\ufffe\ufffe\ufffe",
      "\ufffe\ufffe\ufffe\ufffe\ufffe\ufffe\ufffe‗",
      "\u05d0\u05d1\u05d2\u05d3\u05d4\u05d5\u05d6\u05d7",
      "\u05d8\u05d9\u05da\u05db\u05dc\u05dd\u05de\u05df",
      "\u05e0\u05e1\u05e2\u05e3\u05e4\u05e5\u05e6\u05e7",
      "\u05e8\u05e9\u05ea\ufffe\ufffe\u200e\u200f\ufffe"] },
  { name := "iso8859_9"
    aliases := ["csisolatin5", "iso_8859_9", "iso_8859_9_1989", "iso_ir_148", "l5", "latin5"]
    first := 0xD0
    rows := [
      "ĞÑÒÓÔÕÖ×ØÙÚÛÜİŞß",
      "àáâãäåæçèéêëìíîï",
      "ğñòóôõö÷øùúûüışÿ"] },
  { name := "iso8859_10"
    aliases := ["csisolatin6", "iso_8859_10", "iso_8859_10_1992", "iso_ir_157", "l6", "latin6"]
    first := 0xA0
    rows := [
      "\u00a0ĄĒĢĪĨĶ§ĻĐŠŦŽ\u00adŪŊ",
      "°ąēģīĩķ·ļđšŧž―ūŋ",
      "ĀÁÂÃÄÅÆĮČÉĘËĖÍÎÏ",
      "ÐŅŌÓÔÕÖŨØŲÚÛÜÝÞß",
      "āáâãäåæįčéęëėíîï",
      "ðņōóôõöũøųúûüýþĸ"] },
  { name := "iso8859_11"
    aliases := ["thai", "iso_8859_11", "iso_8859_11_2001"]
    first := 0xA0
    rows := [
      "\u00a0\u0e01\u0e02\u0e03\u0e04\u0e05\u0e06\u0e07",
      "\u0e08\u0e09\u0e0a\u0e0b\u0e0c\u0e0d\u0e0e\u0e0f",
      "\u0e10\u0e11\u0e12\u0e13\u0e14\u0e15\u0e16\u0e17",
      "\u0e18\u0e19\u0e1a\u0e1b\u0e1c\u0e1d\u0e1e\u0e1f",
      "\u0e20\u0e21\u0e22\u0e23\u0e24\u0e25\u0e26\u0e27",
      "\u0e28\u0e29\u0e2a\u0e2b\u0e2c\u0e2d\u0e2e\u0e2f",
      "\u0e30\u0e31\u0e32\u0e33\u0e34\u0e35\u0e36\u0e37",
      "\u0e38\u0e39\u0e3a\ufffe\ufffe\ufffe\ufffe฿",
      "\u0e40\u0e41\u0e42\u0e43\u0e44\u0e45\u0e46\u0e47",
      "\u0e48\u0e49\u0e4a\u0e4b\u0e4c\u0e4d\u0e4e๏",
      "๐๑๒๓๔๕๖๗๘๙๚๛\ufffe\ufffe\ufffe\ufffe"] },
  { name := "iso8859_13"
    aliases := ["iso_8859_13", "l7", "latin7"]
    first := 0xA0
    rows := [
      "\u00a0”¢£¤„¦§Ø©Ŗ«¬\u00ad®Æ",
      "°±²³“µ¶·ø¹ŗ»¼½¾æ",
      "ĄĮĀĆÄÅĘĒČÉŹĖĢĶĪĻ",
      "ŠŃŅÓŌÕÖ×ŲŁŚŪÜŻŽß",
      "ąįāćäåęēčéźėģķīļ",
      "šńņóōõö÷ųłśūüżž’"] },
  { name := "iso8859_14"
    aliases := ["iso_8859_14", "iso_8859_14_1998", "iso_celtic", "iso_ir_199", "l8", "latin8"]
    first := 0xA0
    rows := [
      "\u00a0Ḃḃ£ĊċḊ§Ẁ©ẂḋỲ\u00ad®Ÿ",
      "ḞḟĠġṀṁ¶ṖẁṗẃṠỳẄẅṡ",
      "ÀÁÂÃÄÅÆÇÈÉÊËÌÍÎÏ",
      "ŴÑÒÓÔÕÖṪØÙÚÛÜÝŶß",
      "àáâãäåæçèéêëìíîï",
      "ŵñòóôõöṫøùúûüýŷÿ"] },
  { name := "iso8859_15"
    aliases := ["iso_8859_15", "l9", "latin9"]
    first := 0xA0
    rows := [
      "\u00a0¡¢£€¥Š§š©\u00aa«¬\u00ad®¯",
      "°±²³Žµ¶·ž¹\u00ba»ŒœŸ¿",
      "ÀÁÂÃÄÅÆÇÈÉÊËÌÍÎÏ",
      "ÐÑÒÓÔÕÖ×ØÙÚÛÜÝÞß",
      "àáâãäåæçèéêëìíîï",
      "ðñòóôõö÷øùúûüýþÿ"] },
  { name := "iso8859_16"
    aliases := ["iso_8859_16", "iso_8859_16_2001", "iso_ir_226", "l10", "latin10"]
    first := 0xA0
    rows := [
      "\u00a0ĄąŁ€„Š§š©Ș«Ź\u00adźŻ",
      "°±ČłŽ”¶·žčș»ŒœŸż",
      "ÀÁÂĂÄĆÆÇÈÉÊËÌÍÎÏ",
      "ĐŃÒÓÔŐÖŚŰÙÚÛÜĘȚß",
      "àáâăäćæçèéêëìíîï",
      "đńòóôőöśűùúûüęțÿ"] }]

end ModuleDocs.CodePage
