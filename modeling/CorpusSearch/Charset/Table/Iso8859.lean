-- The parts of ISO 8859, of one byte a character. The replacement character stands at the places
-- of bytes that stand for nothing.
import CorpusSearch.Charset.Step

namespace CorpusSearch.Charset.Iso8859

/-- Central Europe. -/
def part2 : Text := aboveAscii (
  "\u0080\u0081\u0082\u0083\u0084\u0085\u0086\u0087" ++
  "\u0088\u0089\u008a\u008b\u008c\u008d\u008e\u008f" ++
  "\u0090\u0091\u0092\u0093\u0094\u0095\u0096\u0097" ++
  "\u0098\u0099\u009a\u009b\u009c\u009d\u009e\u009f" ++
  "\u00a0Ą˘Ł¤ĽŚ§" ++
  "¨ŠŞŤŹ\u00adŽŻ" ++
  "°ą˛ł´ľśˇ" ++
  "¸šşťź˝žż" ++
  "ŔÁÂĂÄĹĆÇ" ++
  "ČÉĘËĚÍÎĎ" ++
  "ĐŃŇÓÔŐÖ×" ++
  "ŘŮÚŰÜÝŢß" ++
  "ŕáâăäĺćç" ++
  "čéęëěíîď" ++
  "đńňóôőö÷" ++
  "řůúűüýţ˙")

/-- Southern Europe. -/
def part3 : Text := aboveAscii (
  "\u0080\u0081\u0082\u0083\u0084\u0085\u0086\u0087" ++
  "\u0088\u0089\u008a\u008b\u008c\u008d\u008e\u008f" ++
  "\u0090\u0091\u0092\u0093\u0094\u0095\u0096\u0097" ++
  "\u0098\u0099\u009a\u009b\u009c\u009d\u009e\u009f" ++
  "\u00a0Ħ˘£¤�Ĥ§" ++
  "¨İŞĞĴ\u00ad�Ż" ++
  "°ħ²³´µĥ·" ++
  "¸ışğĵ½�ż" ++
  "ÀÁÂ�ÄĊĈÇ" ++
  "ÈÉÊËÌÍÎÏ" ++
  "�ÑÒÓÔĠÖ×" ++
  "ĜÙÚÛÜŬŜß" ++
  "àáâ�äċĉç" ++
  "èéêëìíîï" ++
  "�ñòóôġö÷" ++
  "ĝùúûüŭŝ˙")

/-- Northern Europe. -/
def part4 : Text := aboveAscii (
  "\u0080\u0081\u0082\u0083\u0084\u0085\u0086\u0087" ++
  "\u0088\u0089\u008a\u008b\u008c\u008d\u008e\u008f" ++
  "\u0090\u0091\u0092\u0093\u0094\u0095\u0096\u0097" ++
  "\u0098\u0099\u009a\u009b\u009c\u009d\u009e\u009f" ++
  "\u00a0ĄĸŖ¤ĨĻ§" ++
  "¨ŠĒĢŦ\u00adŽ¯" ++
  "°ą˛ŗ´ĩļˇ" ++
  "¸šēģŧŊžŋ" ++
  "ĀÁÂÃÄÅÆĮ" ++
  "ČÉĘËĖÍÎĪ" ++
  "ĐŅŌĶÔÕÖ×" ++
  "ØŲÚÛÜŨŪß" ++
  "āáâãäåæį" ++
  "čéęëėíîī" ++
  "đņōķôõö÷" ++
  "øųúûüũū˙")

/-- Cyrillic. -/
def part5 : Text := aboveAscii (
  "\u0080\u0081\u0082\u0083\u0084\u0085\u0086\u0087" ++
  "\u0088\u0089\u008a\u008b\u008c\u008d\u008e\u008f" ++
  "\u0090\u0091\u0092\u0093\u0094\u0095\u0096\u0097" ++
  "\u0098\u0099\u009a\u009b\u009c\u009d\u009e\u009f" ++
  "\u00a0ЁЂЃЄЅІЇ" ++
  "ЈЉЊЋЌ\u00adЎЏ" ++
  "АБВГДЕЖЗ" ++
  "ИЙКЛМНОП" ++
  "РСТУФХЦЧ" ++
  "ШЩЪЫЬЭЮЯ" ++
  "абвгдежз" ++
  "ийклмноп" ++
  "рстуфхцч" ++
  "шщъыьэюя" ++
  "№ёђѓєѕії" ++
  "јљњћќ§ўџ")

/-- Arabic. -/
def part6 : Text := aboveAscii (
  "\u0080\u0081\u0082\u0083\u0084\u0085\u0086\u0087" ++
  "\u0088\u0089\u008a\u008b\u008c\u008d\u008e\u008f" ++
  "\u0090\u0091\u0092\u0093\u0094\u0095\u0096\u0097" ++
  "\u0098\u0099\u009a\u009b\u009c\u009d\u009e\u009f" ++
  "\u00a0���¤���" ++
  "����،\u00ad��" ++
  "��������" ++
  "���\u061b���\u061f" ++
  "�\u0621\u0622\u0623\u0624\u0625\u0626\u0627" ++
  "\u0628\u0629\u062a\u062b\u062c\u062d\u062e\u062f" ++
  "\u0630\u0631\u0632\u0633\u0634\u0635\u0636\u0637" ++
  "\u0638\u0639\u063a�����" ++
  "\u0640\u0641\u0642\u0643\u0644\u0645\u0646\u0647" ++
  "\u0648\u0649\u064a\u064b\u064c\u064d\u064e\u064f" ++
  "\u0650\u0651\u0652�����" ++
  "��������")

/-- Greek. -/
def part7 : Text := aboveAscii (
  "\u0080\u0081\u0082\u0083\u0084\u0085\u0086\u0087" ++
  "\u0088\u0089\u008a\u008b\u008c\u008d\u008e\u008f" ++
  "\u0090\u0091\u0092\u0093\u0094\u0095\u0096\u0097" ++
  "\u0098\u0099\u009a\u009b\u009c\u009d\u009e\u009f" ++
  "\u00a0‘’£€₯¦§" ++
  "¨©ͺ«¬\u00ad�―" ++
  "°±²³΄΅Ά·" ++
  "ΈΉΊ»Ό½ΎΏ" ++
  "ΐΑΒΓΔΕΖΗ" ++
  "ΘΙΚΛΜΝΞΟ" ++
  "ΠΡ�ΣΤΥΦΧ" ++
  "ΨΩΪΫάέήί" ++
  "ΰαβγδεζη" ++
  "θικλμνξο" ++
  "πρςστυφχ" ++
  "ψωϊϋόύώ�")

/-- Hebrew. -/
def part8 : Text := aboveAscii (
  "\u0080\u0081\u0082\u0083\u0084\u0085\u0086\u0087" ++
  "\u0088\u0089\u008a\u008b\u008c\u008d\u008e\u008f" ++
  "\u0090\u0091\u0092\u0093\u0094\u0095\u0096\u0097" ++
  "\u0098\u0099\u009a\u009b\u009c\u009d\u009e\u009f" ++
  "\u00a0�¢£¤¥¦§" ++
  "¨©×«¬\u00ad®¯" ++
  "°±²³´µ¶·" ++
  "¸¹÷»¼½¾�" ++
  "��������" ++
  "��������" ++
  "��������" ++
  "�������‗" ++
  "\u05d0\u05d1\u05d2\u05d3\u05d4\u05d5\u05d6\u05d7" ++
  "\u05d8\u05d9\u05da\u05db\u05dc\u05dd\u05de\u05df" ++
  "\u05e0\u05e1\u05e2\u05e3\u05e4\u05e5\u05e6\u05e7" ++
  "\u05e8\u05e9\u05ea��\u200e\u200f�")

/-- Turkish. -/
def part9 : Text := aboveAscii (
  "\u0080\u0081\u0082\u0083\u0084\u0085\u0086\u0087" ++
  "\u0088\u0089\u008a\u008b\u008c\u008d\u008e\u008f" ++
  "\u0090\u0091\u0092\u0093\u0094\u0095\u0096\u0097" ++
  "\u0098\u0099\u009a\u009b\u009c\u009d\u009e\u009f" ++
  "\u00a0¡¢£¤¥¦§" ++
  "¨©ª«¬\u00ad®¯" ++
  "°±²³´µ¶·" ++
  "¸¹º»¼½¾¿" ++
  "ÀÁÂÃÄÅÆÇ" ++
  "ÈÉÊËÌÍÎÏ" ++
  "ĞÑÒÓÔÕÖ×" ++
  "ØÙÚÛÜİŞß" ++
  "àáâãäåæç" ++
  "èéêëìíîï" ++
  "ğñòóôõö÷" ++
  "øùúûüışÿ")

/-- Nordic. -/
def part10 : Text := aboveAscii (
  "\u0080\u0081\u0082\u0083\u0084\u0085\u0086\u0087" ++
  "\u0088\u0089\u008a\u008b\u008c\u008d\u008e\u008f" ++
  "\u0090\u0091\u0092\u0093\u0094\u0095\u0096\u0097" ++
  "\u0098\u0099\u009a\u009b\u009c\u009d\u009e\u009f" ++
  "\u00a0ĄĒĢĪĨĶ§" ++
  "ĻĐŠŦŽ\u00adŪŊ" ++
  "°ąēģīĩķ·" ++
  "ļđšŧž―ūŋ" ++
  "ĀÁÂÃÄÅÆĮ" ++
  "ČÉĘËĖÍÎÏ" ++
  "ÐŅŌÓÔÕÖŨ" ++
  "ØŲÚÛÜÝÞß" ++
  "āáâãäåæį" ++
  "čéęëėíîï" ++
  "ðņōóôõöũ" ++
  "øųúûüýþĸ")

/-- Thai. -/
def part11 : Text := aboveAscii (
  "\u0080\u0081\u0082\u0083\u0084\u0085\u0086\u0087" ++
  "\u0088\u0089\u008a\u008b\u008c\u008d\u008e\u008f" ++
  "\u0090\u0091\u0092\u0093\u0094\u0095\u0096\u0097" ++
  "\u0098\u0099\u009a\u009b\u009c\u009d\u009e\u009f" ++
  "\u00a0กขฃคฅฆง" ++
  "จฉชซฌญฎฏ" ++
  "ฐฑฒณดตถท" ++
  "ธนบปผฝพฟ" ++
  "ภมยรฤลฦว" ++
  "ศษสหฬอฮฯ" ++
  "ะ\u0e31าำ\u0e34\u0e35\u0e36\u0e37" ++
  "\u0e38\u0e39\u0e3a����฿" ++
  "เแโใไๅๆ\u0e47" ++
  "\u0e48\u0e49\u0e4a\u0e4b\u0e4c\u0e4d\u0e4e๏" ++
  "๐๑๒๓๔๕๖๗" ++
  "๘๙๚๛����")

/-- Baltic. -/
def part13 : Text := aboveAscii (
  "\u0080\u0081\u0082\u0083\u0084\u0085\u0086\u0087" ++
  "\u0088\u0089\u008a\u008b\u008c\u008d\u008e\u008f" ++
  "\u0090\u0091\u0092\u0093\u0094\u0095\u0096\u0097" ++
  "\u0098\u0099\u009a\u009b\u009c\u009d\u009e\u009f" ++
  "\u00a0”¢£¤„¦§" ++
  "Ø©Ŗ«¬\u00ad®Æ" ++
  "°±²³“µ¶·" ++
  "ø¹ŗ»¼½¾æ" ++
  "ĄĮĀĆÄÅĘĒ" ++
  "ČÉŹĖĢĶĪĻ" ++
  "ŠŃŅÓŌÕÖ×" ++
  "ŲŁŚŪÜŻŽß" ++
  "ąįāćäåęē" ++
  "čéźėģķīļ" ++
  "šńņóōõö÷" ++
  "ųłśūüżž’")

/-- Celtic. -/
def part14 : Text := aboveAscii (
  "\u0080\u0081\u0082\u0083\u0084\u0085\u0086\u0087" ++
  "\u0088\u0089\u008a\u008b\u008c\u008d\u008e\u008f" ++
  "\u0090\u0091\u0092\u0093\u0094\u0095\u0096\u0097" ++
  "\u0098\u0099\u009a\u009b\u009c\u009d\u009e\u009f" ++
  "\u00a0Ḃḃ£ĊċḊ§" ++
  "Ẁ©ẂḋỲ\u00ad®Ÿ" ++
  "ḞḟĠġṀṁ¶Ṗ" ++
  "ẁṗẃṠỳẄẅṡ" ++
  "ÀÁÂÃÄÅÆÇ" ++
  "ÈÉÊËÌÍÎÏ" ++
  "ŴÑÒÓÔÕÖṪ" ++
  "ØÙÚÛÜÝŶß" ++
  "àáâãäåæç" ++
  "èéêëìíîï" ++
  "ŵñòóôõöṫ" ++
  "øùúûüýŷÿ")

/-- Western Europe with the euro. -/
def part15 : Text := aboveAscii (
  "\u0080\u0081\u0082\u0083\u0084\u0085\u0086\u0087" ++
  "\u0088\u0089\u008a\u008b\u008c\u008d\u008e\u008f" ++
  "\u0090\u0091\u0092\u0093\u0094\u0095\u0096\u0097" ++
  "\u0098\u0099\u009a\u009b\u009c\u009d\u009e\u009f" ++
  "\u00a0¡¢£€¥Š§" ++
  "š©ª«¬\u00ad®¯" ++
  "°±²³Žµ¶·" ++
  "ž¹º»ŒœŸ¿" ++
  "ÀÁÂÃÄÅÆÇ" ++
  "ÈÉÊËÌÍÎÏ" ++
  "ÐÑÒÓÔÕÖ×" ++
  "ØÙÚÛÜÝÞß" ++
  "àáâãäåæç" ++
  "èéêëìíîï" ++
  "ðñòóôõö÷" ++
  "øùúûüýþÿ")

/-- South-Eastern Europe. -/
def part16 : Text := aboveAscii (
  "\u0080\u0081\u0082\u0083\u0084\u0085\u0086\u0087" ++
  "\u0088\u0089\u008a\u008b\u008c\u008d\u008e\u008f" ++
  "\u0090\u0091\u0092\u0093\u0094\u0095\u0096\u0097" ++
  "\u0098\u0099\u009a\u009b\u009c\u009d\u009e\u009f" ++
  "\u00a0ĄąŁ€„Š§" ++
  "š©Ș«Ź\u00adźŻ" ++
  "°±ČłŽ”¶·" ++
  "žčș»ŒœŸż" ++
  "ÀÁÂĂÄĆÆÇ" ++
  "ÈÉÊËÌÍÎÏ" ++
  "ĐŃÒÓÔŐÖŚ" ++
  "ŰÙÚÛÜĘȚß" ++
  "àáâăäćæç" ++
  "èéêëìíîï" ++
  "đńòóôőöś" ++
  "űùúûüęțÿ")

end CorpusSearch.Charset.Iso8859
