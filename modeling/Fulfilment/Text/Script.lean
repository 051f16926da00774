import Fulfilment.Text.Mark

/-!
# Scripts

The letters of some scripts, and how the letters of cursive scripts join their neighbours.  The
tables hold the characters that the name of a host may have, after the Unicode standard,
version 14.
-/

namespace Fulfilment
namespace Text

/-- The characters of the Greek script. -/
def greekRanges : Ranges :=
  [(0x371, 0x371), (0x373, 0x373), (0x375, 0x375), (0x377, 0x377), (0x37B, 0x37D), (0x390, 0x390),
    (0x3AC, 0x3CE), (0x3D7, 0x3D7), (0x3D9, 0x3D9), (0x3DB, 0x3DB), (0x3DD, 0x3DD), (0x3DF, 0x3DF),
    (0x3E1, 0x3E1), (0x3F3, 0x3F3), (0x3F8, 0x3F8), (0x3FB, 0x3FC), (0x1D26, 0x1D2A),
    (0x1F00, 0x1F07), (0x1F10, 0x1F15), (0x1F20, 0x1F27), (0x1F30, 0x1F37), (0x1F40, 0x1F45),
    (0x1F50, 0x1F57), (0x1F60, 0x1F67), (0x1F70, 0x1F70), (0x1F72, 0x1F72), (0x1F74, 0x1F74),
    (0x1F76, 0x1F76), (0x1F78, 0x1F78), (0x1F7A, 0x1F7A), (0x1F7C, 0x1F7C), (0x1FB0, 0x1FB1),
    (0x1FB6, 0x1FB6), (0x1FC6, 0x1FC6), (0x1FD0, 0x1FD2), (0x1FD6, 0x1FD7), (0x1FE0, 0x1FE2),
    (0x1FE4, 0x1FE7), (0x1FF6, 0x1FF6), (0xAB65, 0xAB65)]

/-- The characters of the Hebrew script. -/
def hebrewRanges : Ranges :=
  [(0x591, 0x5BD), (0x5BF, 0x5BF), (0x5C1, 0x5C2), (0x5C4, 0x5C5), (0x5C7, 0x5C7), (0x5D0, 0x5EA),
    (0x5EF, 0x5F4), (0xFB1E, 0xFB1E)]

/-- The characters of the Japanese syllabaries and of the Han script. -/
def eastAsianRanges : Ranges :=
  [(0x3005, 0x3005), (0x3007, 0x3007), (0x3041, 0x3096), (0x309D, 0x309E), (0x30A1, 0x30FA),
    (0x30FD, 0x30FE), (0x31F0, 0x31FF), (0x3400, 0x4DBF), (0x4E00, 0x9FFF), (0xFA0E, 0xFA0F),
    (0xFA11, 0xFA11), (0xFA13, 0xFA14), (0xFA1F, 0xFA1F), (0xFA21, 0xFA21), (0xFA23, 0xFA24),
    (0xFA27, 0xFA29), (0x16FE3, 0x16FE3), (0x16FF0, 0x16FF1), (0x1AFF0, 0x1AFF3),
    (0x1AFF5, 0x1AFFB), (0x1AFFD, 0x1AFFE), (0x1B000, 0x1B122), (0x1B150, 0x1B152),
    (0x1B164, 0x1B167), (0x20000, 0x2A6DF), (0x2A700, 0x2B738), (0x2B740, 0x2B81D),
    (0x2B820, 0x2CEA1), (0x2CEB0, 0x2EBE0), (0x30000, 0x3134A)]

/-- The letters that join the letter behind them. -/
def joinsNextRanges : Ranges :=
  [(0x620, 0x620), (0x626, 0x626), (0x628, 0x628), (0x62A, 0x62E), (0x633, 0x63F), (0x641, 0x647),
    (0x649, 0x64A), (0x66E, 0x66F), (0x679, 0x687), (0x69A, 0x6BF), (0x6C1, 0x6C2), (0x6CC, 0x6CC),
    (0x6CE, 0x6CE), (0x6D0, 0x6D1), (0x6FA, 0x6FC), (0x6FF, 0x6FF), (0x712, 0x714), (0x71A, 0x71D),
    (0x71F, 0x727), (0x729, 0x729), (0x72B, 0x72B), (0x72D, 0x72E), (0x74E, 0x758), (0x75C, 0x76A),
    (0x76D, 0x770), (0x772, 0x772), (0x775, 0x777), (0x77A, 0x77F), (0x7CA, 0x7EA), (0x841, 0x845),
    (0x848, 0x848), (0x84A, 0x853), (0x855, 0x855), (0x860, 0x860), (0x862, 0x865), (0x868, 0x868),
    (0x886, 0x886), (0x889, 0x88D), (0x8A0, 0x8A9), (0x8AF, 0x8B0), (0x8B3, 0x8B8), (0x8BA, 0x8C8),
    (0x1820, 0x1878), (0x1887, 0x18A8), (0x18AA, 0x18AA), (0xA840, 0xA872), (0x10AC0, 0x10AC4),
    (0x10ACD, 0x10ACD), (0x10AD3, 0x10ADC), (0x10ADE, 0x10AE0), (0x10B80, 0x10B80),
    (0x10B82, 0x10B82), (0x10B86, 0x10B88), (0x10B8A, 0x10B8B), (0x10B8D, 0x10B8D),
    (0x10B90, 0x10B90), (0x10D00, 0x10D21), (0x10D23, 0x10D23), (0x10F30, 0x10F32),
    (0x10F34, 0x10F44), (0x10F70, 0x10F73), (0x10F76, 0x10F81), (0x10FB0, 0x10FB0),
    (0x10FB2, 0x10FB3), (0x10FB8, 0x10FB8), (0x10FBB, 0x10FBC), (0x10FBE, 0x10FBF),
    (0x10FC1, 0x10FC1), (0x10FC4, 0x10FC4), (0x1E922, 0x1E943)]

/-- The letters that join the letter before them. -/
def joinsPreviousRanges : Ranges :=
  [(0x620, 0x620), (0x622, 0x63F), (0x641, 0x64A), (0x66E, 0x66F), (0x671, 0x673), (0x679, 0x6D3),
    (0x6D5, 0x6D5), (0x6EE, 0x6EF), (0x6FA, 0x6FC), (0x6FF, 0x6FF), (0x710, 0x710), (0x712, 0x72F),
    (0x74D, 0x77F), (0x7CA, 0x7EA), (0x840, 0x858), (0x860, 0x860), (0x862, 0x865), (0x867, 0x86A),
    (0x870, 0x882), (0x886, 0x886), (0x889, 0x88E), (0x8A0, 0x8AC), (0x8AE, 0x8C8),
    (0x1820, 0x1878), (0x1887, 0x18A8), (0x18AA, 0x18AA), (0xA840, 0xA871), (0x10AC0, 0x10AC5),
    (0x10AC7, 0x10AC7), (0x10AC9, 0x10ACA), (0x10ACE, 0x10AD6), (0x10AD8, 0x10AE1),
    (0x10AE4, 0x10AE4), (0x10B80, 0x10B91), (0x10D01, 0x10D23), (0x10F30, 0x10F44),
    (0x10F70, 0x10F81), (0x10FB0, 0x10FB0), (0x10FB2, 0x10FB6), (0x10FB8, 0x10FBF),
    (0x10FC1, 0x10FC4), (0x1E922, 0x1E943)]

/-- The spacing marks that do not keep their neighbours from joining. -/
def seenThroughRanges : Ranges :=
  [(0xCBF, 0xCBF), (0xCC6, 0xCC6), (0x11A07, 0x11A08), (0x11C3F, 0x11C3F), (0x1E94B, 0x1E94B)]

/-- A character of the Greek script. -/
def isGreek (character : Char) : Bool :=
  greekRanges.contain character

/-- A character of the Hebrew script. -/
def isHebrew (character : Char) : Bool :=
  hebrewRanges.contain character

/-- A character of the Japanese syllabaries or of the Han script. -/
def isEastAsian (character : Char) : Bool :=
  eastAsianRanges.contain character

/-- A letter that joins the letter behind it. -/
def joinsNext (character : Char) : Bool :=
  joinsNextRanges.contain character

/-- A letter that joins the letter before it. -/
def joinsPrevious (character : Char) : Bool :=
  joinsPreviousRanges.contain character

/-- A mark that does not keep its neighbours from joining. -/
def isSeenThrough (character : Char) : Bool :=
  isNonspacingMark character || seenThroughRanges.contain character

end Text
end Fulfilment
