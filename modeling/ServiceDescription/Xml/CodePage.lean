/-! Encodings in which an octet is a character. The lower half is that of ASCII; for the upper half
there is a table, which may start above some control characters. Encodings with characters of several
octets have no table. -/
namespace ServiceDescription.Xml

/-- The characters of the octets from `first` on; a replacement character stands for an octet that
is no character. -/
structure CodePage where
  names : List String
  first : Nat
  characters : String
  deriving DecidableEq, Repr

namespace CodePage

/-- The character of an octet, if it is one. Between the lower half and the table every octet is the
control character of its number. -/
def decode? (p : CodePage) (octet : UInt8) : Option Char :=
  let n := octet.toNat
  if n < p.first then some (Char.ofNat n)
  else (p.characters.toList[n - p.first]?).filter (· ≠ '\uFFFD')

/-- The code pages that documents may declare. The list is not that of a conversion library: other
code pages, and Shift_JIS, EUC-JP or GBK, are not in it, and documents that declare them are
refused. -/
def all : List CodePage :=
  [⟨["iso-8859-2", "iso_8859-2", "iso8859-2", "latin2", "l2", "csisolatin2",
      "iso-ir-101", "iso-latin-2"], 0xA0,
        "\u00A0Ą˘Ł¤ĽŚ§¨ŠŞŤŹ\u00ADŽŻ°ą˛ł´ľśˇ¸šşťź˝žż" ++
        "ŔÁÂĂÄĹĆÇČÉĘËĚÍÎĎĐŃŇÓÔŐÖ×ŘŮÚŰÜÝŢß" ++
        "ŕáâăäĺćçčéęëěíîďđńňóôőö÷řůúűüýţ˙"⟩,
    ⟨["iso-8859-3", "iso_8859-3", "iso8859-3", "latin3", "l3", "csisolatin3",
      "iso-ir-109"], 0xA0,
        "\u00A0Ħ˘£¤\uFFFDĤ§¨İŞĞĴ\u00AD\uFFFDŻ°ħ²³´µĥ·¸ışğĵ½\uFFFDż" ++
        "ÀÁÂ\uFFFDÄĊĈÇÈÉÊËÌÍÎÏ\uFFFDÑÒÓÔĠÖ×ĜÙÚÛÜŬŜß" ++
        "àáâ\uFFFDäċĉçèéêëìíîï\uFFFDñòóôġö÷ĝùúûüŭŝ˙"⟩,
    ⟨["iso-8859-4", "iso_8859-4", "iso8859-4", "latin4", "l4", "csisolatin4",
      "iso-ir-110"], 0xA0,
        "\u00A0ĄĸŖ¤ĨĻ§¨ŠĒĢŦ\u00ADŽ¯°ą˛ŗ´ĩļˇ¸šēģŧŊžŋ" ++
        "ĀÁÂÃÄÅÆĮČÉĘËĖÍÎĪĐŅŌĶÔÕÖ×ØŲÚÛÜŨŪß" ++
        "āáâãäåæįčéęëėíîīđņōķôõö÷øųúûüũū˙"⟩,
    ⟨["iso-8859-5", "iso_8859-5", "iso8859-5", "cyrillic",
      "csisolatincyrillic", "iso-ir-144"], 0xA0,
        "\u00A0ЁЂЃЄЅІЇЈЉЊЋЌ\u00ADЎЏАБВГДЕЖЗИЙКЛМНОП" ++
        "РСТУФХЦЧШЩЪЫЬЭЮЯабвгдежзийклмноп" ++
        "рстуфхцчшщъыьэюя№ёђѓєѕіїјљњћќ§ўџ"⟩,
    ⟨["iso-8859-7", "iso_8859-7", "iso8859-7", "greek", "greek8", "ecma-118",
      "elot_928", "csisolatingreek", "iso-ir-126"], 0xA0,
        "\u00A0‘’£€₯¦§¨©ͺ«¬\u00AD\uFFFD―°±²³΄΅Ά·ΈΉΊ»Ό½ΎΏ" ++
        "ΐΑΒΓΔΕΖΗΘΙΚΛΜΝΞΟΠΡ\uFFFDΣΤΥΦΧΨΩΪΫάέήί" ++
        "ΰαβγδεζηθικλμνξοπρςστυφχψωϊϋόύώ\uFFFD"⟩,
    ⟨["iso-8859-9", "iso_8859-9", "iso8859-9", "latin5", "l5", "csisolatin5",
      "iso-ir-148"], 0xA0,
        "\u00A0¡¢£¤¥¦§¨©ª«¬\u00AD®¯°±²³´µ¶·¸¹º»¼½¾¿" ++
        "ÀÁÂÃÄÅÆÇÈÉÊËÌÍÎÏĞÑÒÓÔÕÖ×ØÙÚÛÜİŞß" ++
        "àáâãäåæçèéêëìíîïğñòóôõö÷øùúûüışÿ"⟩,
    ⟨["iso-8859-10", "iso_8859-10", "iso8859-10", "latin6", "l6",
      "csisolatin6", "iso-ir-157"], 0xA0,
        "\u00A0ĄĒĢĪĨĶ§ĻĐŠŦŽ\u00ADŪŊ°ąēģīĩķ·ļđšŧž―ūŋ" ++
        "ĀÁÂÃÄÅÆĮČÉĘËĖÍÎÏÐŅŌÓÔÕÖŨØŲÚÛÜÝÞß" ++
        "āáâãäåæįčéęëėíîïðņōóôõöũøųúûüýþĸ"⟩,
    ⟨["iso-8859-13", "iso_8859-13", "iso8859-13", "latin7", "l7", "iso-ir-179"], 0xA0,
        "\u00A0”¢£¤„¦§Ø©Ŗ«¬\u00AD®Æ°±²³“µ¶·ø¹ŗ»¼½¾æ" ++
        "ĄĮĀĆÄÅĘĒČÉŹĖĢĶĪĻŠŃŅÓŌÕÖ×ŲŁŚŪÜŻŽß" ++
        "ąįāćäåęēčéźėģķīļšńņóōõö÷ųłśūüżž’"⟩,
    ⟨["iso-8859-14", "iso_8859-14", "iso8859-14", "latin8", "l8", "iso-ir-199",
      "iso-celtic"], 0xA0,
        "\u00A0Ḃḃ£ĊċḊ§Ẁ©ẂḋỲ\u00AD®ŸḞḟĠġṀṁ¶ṖẁṗẃṠỳẄẅṡ" ++
        "ÀÁÂÃÄÅÆÇÈÉÊËÌÍÎÏŴÑÒÓÔÕÖṪØÙÚÛÜÝŶß" ++
        "àáâãäåæçèéêëìíîïŵñòóôõöṫøùúûüýŷÿ"⟩,
    ⟨["iso-8859-15", "iso_8859-15", "iso8859-15", "latin-9", "iso-ir-203"], 0xA0,
        "\u00A0¡¢£€¥Š§š©ª«¬\u00AD®¯°±²³Žµ¶·ž¹º»ŒœŸ¿" ++
        "ÀÁÂÃÄÅÆÇÈÉÊËÌÍÎÏÐÑÒÓÔÕÖ×ØÙÚÛÜÝÞß" ++
        "àáâãäåæçèéêëìíîïðñòóôõö÷øùúûüýþÿ"⟩,
    ⟨["iso-8859-16", "iso_8859-16", "iso8859-16", "latin10", "l10",
      "iso-ir-226"], 0xA0,
        "\u00A0ĄąŁ€„Š§š©Ș«Ź\u00ADźŻ°±ČłŽ”¶·žčș»ŒœŸż" ++
        "ÀÁÂĂÄĆÆÇÈÉÊËÌÍÎÏĐŃÒÓÔŐÖŚŰÙÚÛÜĘȚß" ++
        "àáâăäćæçèéêëìíîïđńòóôőöśűùúûüęțÿ"⟩,
    ⟨["windows-1250", "cp1250", "ms-ee"], 0x80,
        "€\uFFFD‚\uFFFD„…†‡\uFFFD‰Š‹ŚŤŽŹ\uFFFD‘’“”•–—\uFFFD™š›śťžź" ++
        "\u00A0ˇ˘Ł¤Ą¦§¨©Ş«¬\u00AD®Ż°±˛ł´µ¶·¸ąş»Ľ˝ľż" ++
        "ŔÁÂĂÄĹĆÇČÉĘËĚÍÎĎĐŃŇÓÔŐÖ×ŘŮÚŰÜÝŢß" ++
        "ŕáâăäĺćçčéęëěíîďđńňóôőö÷řůúűüýţ˙"⟩,
    ⟨["windows-1251", "cp1251", "ms-cyrl"], 0x80,
        "ЂЃ‚ѓ„…†‡€‰Љ‹ЊЌЋЏђ‘’“”•–—\uFFFD™љ›њќћџ" ++
        "\u00A0ЎўЈ¤Ґ¦§Ё©Є«¬\u00AD®Ї°±Ііґµ¶·ё№є»јЅѕї" ++
        "АБВГДЕЖЗИЙКЛМНОПРСТУФХЦЧШЩЪЫЬЭЮЯ" ++
        "абвгдежзийклмнопрстуфхцчшщъыьэюя"⟩,
    ⟨["windows-1252", "cp1252", "ms-ansi"], 0x80,
        "€\uFFFD‚ƒ„…†‡ˆ‰Š‹Œ\uFFFDŽ\uFFFD\uFFFD‘’“”•–—˜™š›œ\uFFFDžŸ" ++
        "\u00A0¡¢£¤¥¦§¨©ª«¬\u00AD®¯°±²³´µ¶·¸¹º»¼½¾¿" ++
        "ÀÁÂÃÄÅÆÇÈÉÊËÌÍÎÏÐÑÒÓÔÕÖ×ØÙÚÛÜÝÞß" ++
        "àáâãäåæçèéêëìíîïðñòóôõö÷øùúûüýþÿ"⟩,
    ⟨["windows-1253", "cp1253", "ms-greek"], 0x80,
        "€\uFFFD‚ƒ„…†‡\uFFFD‰\uFFFD‹\uFFFD\uFFFD\uFFFD\uFFFD" ++
        "\uFFFD‘’“”•–—\uFFFD™\uFFFD›\uFFFD\uFFFD\uFFFD\uFFFD" ++
        "\u00A0΅Ά£¤¥¦§¨©\uFFFD«¬\u00AD®―°±²³΄µ¶·ΈΉΊ»Ό½ΎΏ" ++
        "ΐΑΒΓΔΕΖΗΘΙΚΛΜΝΞΟΠΡ\uFFFDΣΤΥΦΧΨΩΪΫάέήί" ++
        "ΰαβγδεζηθικλμνξοπρςστυφχψωϊϋόύώ\uFFFD"⟩,
    ⟨["windows-1254", "cp1254", "ms-turk"], 0x80,
        "€\uFFFD‚ƒ„…†‡ˆ‰Š‹Œ\uFFFD\uFFFD\uFFFD\uFFFD‘’“”•–—˜™š›œ\uFFFD\uFFFDŸ" ++
        "\u00A0¡¢£¤¥¦§¨©ª«¬\u00AD®¯°±²³´µ¶·¸¹º»¼½¾¿" ++
        "ÀÁÂÃÄÅÆÇÈÉÊËÌÍÎÏĞÑÒÓÔÕÖ×ØÙÚÛÜİŞß" ++
        "àáâãäåæçèéêëìíîïğñòóôõö÷øùúûüışÿ"⟩,
    ⟨["windows-1257", "cp1257", "winbaltrim"], 0x80,
        "€\uFFFD‚\uFFFD„…†‡\uFFFD‰\uFFFD‹\uFFFD¨ˇ¸\uFFFD‘’“”•–—\uFFFD™\uFFFD›\uFFFD¯˛\uFFFD" ++
        "\u00A0\uFFFD¢£¤\uFFFD¦§Ø©Ŗ«¬\u00AD®Æ°±²³´µ¶·ø¹ŗ»¼½¾æ" ++
        "ĄĮĀĆÄÅĘĒČÉŹĖĢĶĪĻŠŃŅÓŌÕÖ×ŲŁŚŪÜŻŽß" ++
        "ąįāćäåęēčéźėģķīļšńņóōõö÷ųłśūüżž˙"⟩,
    ⟨["koi8-r", "cskoi8r"], 0x80,
        "─│┌┐└┘├┤┬┴┼▀▄█▌▐░▒▓⌠■∙√≈≤≥\u00A0⌡°²·÷" ++
        "═║╒ё╓╔╕╖╗╘╙╚╛╜╝╞╟╠╡Ё╢╣╤╥╦╧╨╩╪╫╬©" ++
        "юабцдефгхийклмнопярстужвьызшэщчъ" ++
        "ЮАБЦДЕФГХИЙКЛМНОПЯРСТУЖВЬЫЗШЭЩЧЪ"⟩]

/-- The encoding that a name in lower case stands for. -/
def named? (name : String) : Option CodePage := all.find? (·.names.contains name)

end CodePage
end ServiceDescription.Xml
