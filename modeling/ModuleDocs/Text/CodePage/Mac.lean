import ModuleDocs.Text.CodePage

/-! # Pages of desktop publishing

    These put letters with accents where others have control characters. -/

namespace ModuleDocs.CodePage

/-- The pages of this family. -/
def macPages : List CodePage := [
  { name := "palmos"
    rows := [
      "€\u0081‚ƒ„…†‡\u02c6‰Š‹Œ♦♣♥",
      "♠‘’“”•–—˜™š\u009bœ\u009d\u009eŸ",
      "\u00a0¡¢£¤¥¦§¨©\u00aa«¬\u00ad®¯",
      "°±²³´µ¶·¸¹\u00ba»¼½¾¿",
      "ÀÁÂÃÄÅÆÇÈÉÊËÌÍÎÏ",
      "ÐÑÒÓÔÕÖ×ØÙÚÛÜÝÞß",
      "àáâãäåæçèéêëìíîï",
      "ðñòóôõö÷øùúûüýþÿ"] },
  { name := "hp_roman8"
    aliases := ["roman8", "r8", "cp1051", "ibm1051"]
    first := 0xA0
    rows := [
      "\u00a0ÀÂÈÊËÎÏ´\u02cb\u02c6¨˜ÙÛ₤",
      "¯Ýý°ÇçÑñ¡¿¤£¥§ƒ¢",
      "âêôûáéóúàèòùäëöü",
      "ÅîØÆåíøæÄìÖÜÉïßÔ",
      "ÁÃãÐðÍÌÓÒÕõŠšÚŸÿ",
      "Þþ·µ¶¾—¼½\u00aa\u00ba«■»±\ufffe"] },
  { name := "mac_farsi"
    rows := [
      "Ä\u00a0ÇÉÑÖÜáàâä\u06ba«çéè",
      "êëí…îïñó»ôö÷úùûü",
      " !\"#$٪&'()*+،-.\x2f",
      "۰۱۲۳۴۵۶۷۸۹:\u061b<=>\u061f",
      "❊\u0621\u0622\u0623\u0624\u0625\u0626\u0627",
      "\u0628\u0629\u062a\u062b\u062c\u062d\u062e\u062f",
      "\u0630\u0631\u0632\u0633\u0634\u0635\u0636\u0637\u0638\u0639\u063a[\\]^_",
      "\u0640\u0641\u0642\u0643\u0644\u0645\u0646\u0647",
      "\u0648\u0649\u064a\u064b\u064c\u064d\u064e\u064f",
      "\u0650\u0651\u0652\u067e\u0679\u0686\u06d5\u06a4",
      "\u06af\u0688\u0691\x7b|\x7d\u0698\u06d2"] },
  { name := "mac_greek"
    aliases := ["macgreek"]
    rows := [
      "Ä¹²É³ÖÜ΅àâä΄¨çéè",
      "êë£™îï•½‰ôö¦€ùûü",
      "†ΓΔΘΛΞΠß®©ΣΪ§≠°·",
      "Α±≤≥¥ΒΕΖΗΙΚΜΦΫΨΩ",
      "άΝ¬ΟΡ≈Τ«»…\u00a0ΥΧΆΈœ",
      "–―“”‘’÷ΉΊΌΎέήίόΏ",
      "ύαβψδεφγηιξκλμνο",
      "πώρστθωςχυζϊϋΐΰ\u00ad"] },
  { name := "mac_roman"
    aliases := ["macintosh", "macroman"]
    rows := [
      "ÄÅÇÉÑÖÜáàâäãåçéè",
      "êëíìîïñóòôöõúùûü",
      "†°¢£§•¶ß®©™´¨≠ÆØ",
      "∞±≤≥¥µ∂∑∏π∫\u00aa\u00baΩæø",
      "¿¡¬√ƒ≈∆«»…\u00a0ÀÃÕŒœ",
      "–—“”‘’÷◊ÿŸ⁄€‹›ﬁﬂ",
      "‡·‚„‰ÂÊÁËÈÍÎÏÌÓÔ",
      "\uf8ffÒÚÛÙı\u02c6˜¯˘˙˚¸˝˛\u02c7"] },
  { name := "mac_arabic"
    rows := [
      "Ä\u00a0ÇÉÑÖÜáàâä\u06ba«çéè",
      "êëí…îïñó»ôö÷úùûü",
      " !\"#$٪&'()*+،-.\x2f",
      "\u0660\u0661\u0662\u0663\u0664\u0665\u0666\u0667\u0668\u0669:\u061b<=>\u061f",
      "❊\u0621\u0622\u0623\u0624\u0625\u0626\u0627",
      "\u0628\u0629\u062a\u062b\u062c\u062d\u062e\u062f",
      "\u0630\u0631\u0632\u0633\u0634\u0635\u0636\u0637\u0638\u0639\u063a[\\]^_",
      "\u0640\u0641\u0642\u0643\u0644\u0645\u0646\u0647",
      "\u0648\u0649\u064a\u064b\u064c\u064d\u064e\u064f",
      "\u0650\u0651\u0652\u067e\u0679\u0686\u06d5\u06a4",
      "\u06af\u0688\u0691\x7b|\x7d\u0698\u06d2"] },
  { name := "mac_latin2"
    aliases := ["maccentraleurope", "mac_centeuro", "maclatin2"]
    rows := [
      "ÄĀāÉĄÖÜáąČäčĆćéŹ",
      "źĎíďĒēĖóėôöõúĚěü",
      "†°Ę£§•¶ß®©™ę¨≠ģĮ",
      "įĪ≤≥īĶ∂∑łĻļĽľĹĺŅ",
      "ņŃ¬√ńŇ∆«»…\u00a0ňŐÕőŌ",
      "–—“”‘’÷◊ōŔŕŘ‹›řŖ",
      "ŗŠ‚„šŚśÁŤťÍŽžŪÓÔ",
      "ūŮÚůŰűŲųÝýķŻŁżĢ\u02c7"] },
  { name := "mac_iceland"
    aliases := ["maciceland"]
    rows := [
      "ÄÅÇÉÑÖÜáàâäãåçéè",
      "êëíìîïñóòôöõúùûü",
      "Ý°¢£§•¶ß®©™´¨≠ÆØ",
      "∞±≤≥¥µ∂∑∏π∫\u00aa\u00baΩæø",
      "¿¡¬√ƒ≈∆«»…\u00a0ÀÃÕŒœ",
      "–—“”‘’÷◊ÿŸ⁄€ÐðÞþ",
      "ý·‚„‰ÂÊÁËÈÍÎÏÌÓÔ",
      "\uf8ffÒÚÛÙı\u02c6˜¯˘˙˚¸˝˛\u02c7"] },
  { name := "mac_turkish"
    aliases := ["macturkish"]
    rows := [
      "ÄÅÇÉÑÖÜáàâäãåçéè",
      "êëíìîïñóòôöõúùûü",
      "†°¢£§•¶ß®©™´¨≠ÆØ",
      "∞±≤≥¥µ∂∑∏π∫\u00aa\u00baΩæø",
      "¿¡¬√ƒ≈∆«»…\u00a0ÀÃÕŒœ",
      "–—“”‘’÷◊ÿŸĞğİıŞş",
      "‡·‚„‰ÂÊÁËÈÍÎÏÌÓÔ",
      "\uf8ffÒÚÛÙ\uf8a0\u02c6˜¯˘˙˚¸˝˛\u02c7"] },
  { name := "mac_croatian"
    rows := [
      "ÄÅÇÉÑÖÜáàâäãåçéè",
      "êëíìîïñóòôöõúùûü",
      "†°¢£§•¶ß®Š™´¨≠ŽØ",
      "∞±≤≥∆µ∂∑∏š∫\u00aa\u00baΩžø",
      "¿¡¬√ƒ≈Ć«Č…\u00a0ÀÃÕŒœ",
      "Đ—“”‘’÷◊\uf8ff©⁄€‹›Æ»",
      "–·‚„‰ÂćÁčÈÍÎÏÌÓÔ",
      "đÒÚÛÙı\u02c6˜¯πË˚¸Êæ\u02c7"] },
  { name := "mac_cyrillic"
    aliases := ["maccyrillic"]
    rows := [
      "АБВГДЕЖЗИЙКЛМНОП",
      "РСТУФХЦЧШЩЪЫЬЭЮЯ",
      "†°Ґ£§•¶І®©™Ђђ≠Ѓѓ",
      "∞±≤≥іµґЈЄєЇїЉљЊњ",
      "јЅ¬√ƒ≈∆«»…\u00a0ЋћЌќѕ",
      "–—“”‘’÷„ЎўЏџ№Ёёя",
      "абвгдежзийклмноп",
      "рстуфхцчшщъыьэю€"] },
  { name := "mac_romanian"
    rows := [
      "ÄÅÇÉÑÖÜáàâäãåçéè",
      "êëíìîïñóòôöõúùûü",
      "†°¢£§•¶ß®©™´¨≠ĂȘ",
      "∞±≤≥¥µ∂∑∏π∫\u00aa\u00baΩăș",
      "¿¡¬√ƒ≈∆«»…\u00a0ÀÃÕŒœ",
      "–—“”‘’÷◊ÿŸ⁄€‹›Țț",
      "‡·‚„‰ÂÊÁËÈÍÎÏÌÓÔ",
      "\uf8ffÒÚÛÙı\u02c6˜¯˘˙˚¸˝˛\u02c7"] }]

end ModuleDocs.CodePage
