import ModuleDocs.Text.CodePage

/-! # Cyrillic pages

    Letters stand in the order of the Latin letters that sound alike, or in
    that of the alphabet. -/

namespace ModuleDocs.CodePage

/-- The pages of this family. -/
def cyrillicPages : List CodePage := [
  { name := "koi8_r"
    aliases := ["cskoi8r"]
    rows := [
      "─│┌┐└┘├┤┬┴┼▀▄█▌▐",
      "░▒▓⌠■∙√≈≤≥\u00a0⌡°²·÷",
      "═║╒ё╓╔╕╖╗╘╙╚╛╜╝╞",
      "╟╠╡Ё╢╣╤╥╦╧╨╩╪╫╬©",
      "юабцдефгхийклмно",
      "пярстужвьызшэщчъ",
      "ЮАБЦДЕФГХИЙКЛМНО",
      "ПЯРСТУЖВЬЫЗШЭЩЧЪ"] },
  { name := "koi8_t"
    rows := [
      "қғ‚Ғ„…†‡\ufffe‰ҳ‹ҲҷҶ\ufffe",
      "Қ‘’“”•–—\ufffe™\ufffe›\ufffe\ufffe\ufffe\ufffe",
      "\ufffeӯӮё¤ӣ¦§\ufffe\ufffe\ufffe«¬\u00ad®\ufffe",
      "°±²Ё\ufffeӢ¶·\ufffe№\ufffe»\ufffe\ufffe\ufffe©",
      "юабцдефгхийклмно",
      "пярстужвьызшэщчъ",
      "ЮАБЦДЕФГХИЙКЛМНО",
      "ПЯРСТУЖВЬЫЗШЭЩЧЪ"] },
  { name := "koi8_u"
    rows := [
      "─│┌┐└┘├┤┬┴┼▀▄█▌▐",
      "░▒▓⌠■∙√≈≤≥\u00a0⌡°²·÷",
      "═║╒ёє╔ії╗╘╙╚╛ґ╝╞",
      "╟╠╡ЁЄ╣ІЇ╦╧╨╩╪Ґ╬©",
      "юабцдефгхийклмно",
      "пярстужвьызшэщчъ",
      "ЮАБЦДЕФГХИЙКЛМНО",
      "ПЯРСТУЖВЬЫЗШЭЩЧЪ"] },
  { name := "ptcp154"
    aliases := ["csptcp154", "pt154", "cp154", "cyrillic_asian"]
    rows := [
      "ҖҒӮғ„…ҶҮҲүҠӢҢҚҺҸ",
      "җ‘’“”•–—ҳҷҡӣңқһҹ",
      "\u00a0ЎўЈӨҘҰ§Ё©Ә«¬ӯ®Ҝ",
      "°ұІіҙө¶·ё№ә»јҪҫҝ",
      "АБВГДЕЖЗИЙКЛМНОП",
      "РСТУФХЦЧШЩЪЫЬЭЮЯ",
      "абвгдежзийклмноп",
      "рстуфхцчшщъыьэюя"] }]

end ModuleDocs.CodePage
