/-!
# Silent characters

Characters beyond ASCII whose ASCII spelling is empty: controls, combining marks, joiners,
signs of direction and variation, and letters without a sound of their own.
-/

set_option autoImplicit false

namespace AtomicCss.Text

/-- Inclusive ranges in increasing order. -/
def silentRanges : List (Nat × Nat) :=
  [(0x7F, 0x9F), (0xAD, 0xAD), (0x300, 0x362), (0x385, 0x385), (0x483, 0x486), (0x591, 0x5AF),
   (0x5BD, 0x5BD), (0x5BF, 0x5BF), (0x5C2, 0x5C2), (0x600, 0x600), (0x602, 0x602),
   (0x604, 0x605), (0x610, 0x61A), (0x61C, 0x61C), (0x621, 0x621), (0x625, 0x625),
   (0x627, 0x627), (0x640, 0x640), (0x652, 0x653), (0x658, 0x658), (0x65F, 0x65F),
   (0x6D6, 0x6DC), (0x6DF, 0x6E8), (0x6EA, 0x6ED), (0x70F, 0x70F), (0x740, 0x740),
   (0x743, 0x744), (0x7B0, 0x7B0), (0x7EB, 0x7F3), (0x7FD, 0x7FD), (0x816, 0x819),
   (0x82C, 0x82D), (0x859, 0x85B), (0x8D3, 0x8E2), (0x8EA, 0x8EF), (0x8F7, 0x8FD),
   (0x8FF, 0x8FF), (0x94D, 0x94D), (0x9CD, 0x9CD), (0xA4D, 0xA4D), (0xA51, 0xA51),
   (0xA72, 0xA73), (0xACD, 0xACD), (0xB4D, 0xB4D), (0xBCD, 0xBCD), (0xC3C, 0xC3C),
   (0xC4D, 0xC4D), (0xCBC, 0xCBC), (0xCCD, 0xCCD), (0xD3B, 0xD3C), (0xD49, 0xD49),
   (0xD4D, 0xD4D), (0xDCA, 0xDCA), (0xE47, 0xE4C), (0xE4E, 0xE4E), (0xEBA, 0xEBA),
   (0xEC8, 0xECC), (0xF18, 0xF19), (0xF35, 0xF35), (0xF37, 0xF37), (0xF39, 0xF39),
   (0xF3E, 0xF3F), (0xF60, 0xF60), (0xF82, 0xF84), (0xF86, 0xF8B), (0xFB0, 0xFB0),
   (0xFC6, 0xFC6), (0x1039, 0x103A), (0x110B, 0x110B), (0x1147, 0x1147), (0x115F, 0x1160),
   (0x135D, 0x135F), (0x1714, 0x1714), (0x1734, 0x1734), (0x17C9, 0x17CA), (0x17CD, 0x17CD),
   (0x17CF, 0x17CF), (0x17D1, 0x17D3), (0x17DD, 0x17DD), (0x180B, 0x180D), (0x193A, 0x193B),
   (0x1A60, 0x1A60), (0x1A75, 0x1A7A), (0x1A7C, 0x1A7C), (0x1AB0, 0x1ABE), (0x1B6B, 0x1B73),
   (0x1BAB, 0x1BAB), (0x1C36, 0x1C37), (0x1CD0, 0x1CD2), (0x1CD4, 0x1CE1), (0x1CED, 0x1CED),
   (0x1CF4, 0x1CF4), (0x1CF7, 0x1CF9), (0x1DC0, 0x1DC9), (0x1DCB, 0x1DCF), (0x1DF5, 0x1DF9),
   (0x1DFB, 0x1DFF), (0x200C, 0x200F), (0x202A, 0x202E), (0x2060, 0x206F), (0x2072, 0x2073),
   (0x20D0, 0x20F0), (0x2425, 0x2426), (0x2446, 0x2446), (0x2CEF, 0x2CF1), (0x2D7F, 0x2D7F),
   (0x302A, 0x302F), (0x30FC, 0x30FC), (0x3147, 0x3147), (0x3164, 0x3164), (0xA4FA, 0xA4FA),
   (0xA66F, 0xA66F), (0xA67C, 0xA67D), (0xA802, 0xA802), (0xA806, 0xA806), (0xA8C4, 0xA8C4),
   (0xA92B, 0xA92D), (0xA9E5, 0xA9E5), (0xAABF, 0xAABF), (0xAAC1, 0xAAC1), (0xAAF6, 0xAAF6),
   (0xABED, 0xABED), (0xFACF, 0xFACF), (0xFB1E, 0xFB1E), (0xFE00, 0xFE0F), (0xFE20, 0xFE2F),
   (0xFE53, 0xFE53), (0xFE67, 0xFE67), (0xFEFF, 0xFEFF), (0xFFA0, 0xFFA0), (0xFFB7, 0xFFB7),
   (0xFFFE, 0xFFFE), (0x13430, 0x13438), (0x16AF0, 0x16AF4), (0x16B34, 0x16B34),
   (0x16F4F, 0x16F4F), (0x16F51, 0x16F53), (0x16F8F, 0x16F92), (0x16FE4, 0x16FE4),
   (0x16FF0, 0x16FF1), (0x1BC9D, 0x1BC9E), (0x1BCA0, 0x1BCA3), (0x1D167, 0x1D169),
   (0x1D173, 0x1D182), (0x1D185, 0x1D18B), (0x1D1AA, 0x1D1AD), (0x1D242, 0x1D244),
   (0x1DA00, 0x1DA36), (0x1DA3B, 0x1DA6C), (0x1DA75, 0x1DA75), (0x1DA84, 0x1DA84),
   (0x1DA9B, 0x1DA9F), (0x1DAA1, 0x1DAAF), (0x1E2EC, 0x1E2EF), (0x1E8D0, 0x1E8D6),
   (0x1E944, 0x1E94A)]

end AtomicCss.Text
