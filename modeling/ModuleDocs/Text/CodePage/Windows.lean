import ModuleDocs.Text.CodePage

/-! # Pages of window systems

    Each of these serves the languages of one region. -/

namespace ModuleDocs.CodePage

/-- The pages of this family. -/
def windowsPages : List CodePage := [
  { name := "cp874"
    rows := [
      "€\ufffe\ufffe\ufffe\ufffe…\ufffe\ufffe\ufffe\ufffe\ufffe\ufffe\ufffe\ufffe\ufffe\ufffe",
      "\ufffe‘’“”•–—\ufffe\ufffe\ufffe\ufffe\ufffe\ufffe\ufffe\ufffe",
      "\u00a0\u0e01\u0e02\u0e03\u0e04\u0e05\u0e06\u0e07",
      "\u0e08\u0e09\u0e0a\u0e0b\u0e0c\u0e0d\u0e0e\u0e0f",
      "\u0e10\u0e11\u0e12\u0e13\u0e14\u0e15\u0e16\u0e17",
      "\u0e18\u0e19\u0e1a\u0e1b\u0e1c\u0e1d\u0e1e\u0e1f",
      "\u0e20\u0e21\u0e22\u0e23\u0e24\u0e25\u0e26\u0e27",
      "\u0e28\u0e29\u0e2a\u0e2b\u0e2c\u0e2d\u0e2e\u0e2f",
      "\u0e30\u0e31\u0e32\u0e33\u0e34\u0e35\u0e36\u0e37",
      "\u0e38\u0e39\u0e3a\ufffe\ufffe\ufffe\ufffe฿",
      "\u0e40\u0e41\u0e42\u0e43\u0e44\u0e45\u0e46\u0e47",
      "\u0e48\u0e49\u0e4a\u0e4b\u0e4c\u0e4d\u0e4e๏",
      "๐๑๒๓๔๕๖๗๘๙๚๛\ufffe\ufffe\ufffe\ufffe"] },
  { name := "cp1250"
    aliases := ["1250", "windows_1250"]
    rows := [
      "€\ufffe‚\ufffe„…†‡\ufffe‰Š‹ŚŤŽŹ",
      "\ufffe‘’“”•–—\ufffe™š›śťžź",
      "\u00a0\u02c7˘Ł¤Ą¦§¨©Ş«¬\u00ad®Ż",
      "°±˛ł´µ¶·¸ąş»Ľ˝ľż",
      "ŔÁÂĂÄĹĆÇČÉĘËĚÍÎĎ",
      "ĐŃŇÓÔŐÖ×ŘŮÚŰÜÝŢß",
      "ŕáâăäĺćçčéęëěíîď",
      "đńňóôőö÷řůúűüýţ˙"] },
  { name := "cp1251"
    aliases := ["1251", "windows_1251"]
    rows := [
      "ЂЃ‚ѓ„…†‡€‰Љ‹ЊЌЋЏ",
      "ђ‘’“”•–—\ufffe™љ›њќћџ",
      "\u00a0ЎўЈ¤Ґ¦§Ё©Є«¬\u00ad®Ї",
      "°±Ііґµ¶·ё№є»јЅѕї",
      "АБВГДЕЖЗИЙКЛМНОП",
      "РСТУФХЦЧШЩЪЫЬЭЮЯ",
      "абвгдежзийклмноп",
      "рстуфхцчшщъыьэюя"] },
  { name := "cp1252"
    aliases := ["1252", "windows_1252"]
    rows := [
      "€\ufffe‚ƒ„…†‡\u02c6‰Š‹Œ\ufffeŽ\ufffe",
      "\ufffe‘’“”•–—˜™š›œ\ufffežŸ",
      "\u00a0¡¢£¤¥¦§¨©\u00aa«¬\u00ad®¯",
      "°±²³´µ¶·¸¹\u00ba»¼½¾¿",
      "ÀÁÂÃÄÅÆÇÈÉÊËÌÍÎÏ",
      "ÐÑÒÓÔÕÖ×ØÙÚÛÜÝÞß",
      "àáâãäåæçèéêëìíîï",
      "ðñòóôõö÷øùúûüýþÿ"] },
  { name := "cp1253"
    aliases := ["1253", "windows_1253"]
    rows := [
      "€\ufffe‚ƒ„…†‡\ufffe‰\ufffe‹\ufffe\ufffe\ufffe\ufffe",
      "\ufffe‘’“”•–—\ufffe™\ufffe›\ufffe\ufffe\ufffe\ufffe",
      "\u00a0΅Ά£¤¥¦§¨©\ufffe«¬\u00ad®―",
      "°±²³΄µ¶·ΈΉΊ»Ό½ΎΏ",
      "ΐΑΒΓΔΕΖΗΘΙΚΛΜΝΞΟ",
      "ΠΡ\ufffeΣΤΥΦΧΨΩΪΫάέήί",
      "ΰαβγδεζηθικλμνξο",
      "πρςστυφχψωϊϋόύώ\ufffe"] },
  { name := "cp1254"
    aliases := ["1254", "windows_1254"]
    rows := [
      "€\ufffe‚ƒ„…†‡\u02c6‰Š‹Œ\ufffe\ufffe\ufffe",
      "\ufffe‘’“”•–—˜™š›œ\ufffe\ufffeŸ",
      "\u00a0¡¢£¤¥¦§¨©\u00aa«¬\u00ad®¯",
      "°±²³´µ¶·¸¹\u00ba»¼½¾¿",
      "ÀÁÂÃÄÅÆÇÈÉÊËÌÍÎÏ",
      "ĞÑÒÓÔÕÖ×ØÙÚÛÜİŞß",
      "àáâãäåæçèéêëìíîï",
      "ğñòóôõö÷øùúûüışÿ"] },
  { name := "cp1255"
    aliases := ["1255", "windows_1255"]
    rows := [
      "€\ufffe‚ƒ„…†‡\u02c6‰\ufffe‹\ufffe\ufffe\ufffe\ufffe",
      "\ufffe‘’“”•–—˜™\ufffe›\ufffe\ufffe\ufffe\ufffe",
      "\u00a0¡¢£₪¥¦§¨©×«¬\u00ad®¯",
      "°±²³´µ¶·¸¹÷»¼½¾¿",
      "\u05b0\u05b1\u05b2\u05b3\u05b4\u05b5\u05b6\u05b7",
      "\u05b8\u05b9\ufffe\u05bb\u05bc\u05bd\u05be\u05bf",
      "\u05c0\u05c1\u05c2\u05c3\u05f0\u05f1\u05f2\u05f3",
      "\u05f4\ufffe\ufffe\ufffe\ufffe\ufffe\ufffe\ufffe",
      "\u05d0\u05d1\u05d2\u05d3\u05d4\u05d5\u05d6\u05d7",
      "\u05d8\u05d9\u05da\u05db\u05dc\u05dd\u05de\u05df",
      "\u05e0\u05e1\u05e2\u05e3\u05e4\u05e5\u05e6\u05e7",
      "\u05e8\u05e9\u05ea\ufffe\ufffe\u200e\u200f\ufffe"] },
  { name := "cp1256"
    aliases := ["1256", "windows_1256"]
    rows := [
      "€\u067e‚ƒ„…†‡\u02c6‰\u0679‹Œ\u0686\u0698\u0688",
      "\u06af‘’“”•–—\u06a9™\u0691›œ\u200c\u200d\u06ba",
      "\u00a0،¢£¤¥¦§¨©\u06be«¬\u00ad®¯",
      "°±²³´µ¶·¸¹\u061b»¼½¾\u061f",
      "\u06c1\u0621\u0622\u0623\u0624\u0625\u0626\u0627",
      "\u0628\u0629\u062a\u062b\u062c\u062d\u062e\u062f",
      "\u0630\u0631\u0632\u0633\u0634\u0635\u0636×",
      "\u0637\u0638\u0639\u063a\u0640\u0641\u0642\u0643",
      "à\u0644â\u0645\u0646\u0647\u0648çèéêë\u0649\u064aîï",
      "\u064b\u064c\u064d\u064eô\u064f\u0650÷\u0651ù\u0652ûü\u200e\u200f\u06d2"] },
  { name := "cp1257"
    aliases := ["1257", "windows_1257"]
    rows := [
      "€\ufffe‚\ufffe„…†‡\ufffe‰\ufffe‹\ufffe¨\u02c7¸",
      "\ufffe‘’“”•–—\ufffe™\ufffe›\ufffe¯˛\ufffe",
      "\u00a0\ufffe¢£¤\ufffe¦§Ø©Ŗ«¬\u00ad®Æ",
      "°±²³´µ¶·ø¹ŗ»¼½¾æ",
      "ĄĮĀĆÄÅĘĒČÉŹĖĢĶĪĻ",
      "ŠŃŅÓŌÕÖ×ŲŁŚŪÜŻŽß",
      "ąįāćäåęēčéźėģķīļ",
      "šńņóōõö÷ųłśūüżž˙"] },
  { name := "cp1258"
    aliases := ["1258", "windows_1258"]
    rows := [
      "€\ufffe‚ƒ„…†‡\u02c6‰\ufffe‹Œ\ufffe\ufffe\ufffe",
      "\ufffe‘’“”•–—˜™\ufffe›œ\ufffe\ufffeŸ",
      "\u00a0¡¢£¤¥¦§¨©\u00aa«¬\u00ad®¯",
      "°±²³´µ¶·¸¹\u00ba»¼½¾¿",
      "ÀÁÂĂÄÅÆÇÈÉÊË\u0300ÍÎÏ",
      "ĐÑ\u0309ÓÔƠÖ×ØÙÚÛÜƯ\u0303ß",
      "àáâăäåæçèéêë\u0301íîï",
      "đñ\u0323óôơö÷øùúûüư₫ÿ"] },
  { name := "kz1048"
    aliases := ["kz_1048", "rk1048", "strk1048_2002"]
    rows := [
      "ЂЃ‚ѓ„…†‡€‰Љ‹ЊҚҺЏ",
      "ђ‘’“”•–—\ufffe™љ›њқһџ",
      "\u00a0ҰұӘ¤Ө¦§Ё©Ғ«¬\u00ad®Ү",
      "°±Ііөµ¶·ё№ғ»әҢңү",
      "АБВГДЕЖЗИЙКЛМНОП",
      "РСТУФХЦЧШЩЪЫЬЭЮЯ",
      "абвгдежзийклмноп",
      "рстуфхцчшщъыьэюя"] }]

end ModuleDocs.CodePage
