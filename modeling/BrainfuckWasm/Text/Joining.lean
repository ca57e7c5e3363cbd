import BrainfuckWasm.Text.Mark

/-!
# Joining letters

In cursive scripts a letter is joined to the one before it, to the one after it, or to both. Marks
and format characters between two letters do not keep them apart.
-/

namespace BrainfuckWasm.Text

/-- The ranges of letters that are joined to a letter after them. -/
def joinedAfterRanges : List (Nat × Nat) :=
  [(0x620, 0x620), (0x626, 0x626), (0x628, 0x628), (0x62A, 0x62E), (0x633, 0x63F), (0x641, 0x647),
   (0x649, 0x64A), (0x66E, 0x66F), (0x678, 0x687), (0x69A, 0x6BF), (0x6C1, 0x6C2), (0x6CC, 0x6CC),
   (0x6CE, 0x6CE), (0x6D0, 0x6D1), (0x6FA, 0x6FC), (0x6FF, 0x6FF), (0x712, 0x714), (0x71A, 0x71D),
   (0x71F, 0x727), (0x729, 0x729), (0x72B, 0x72B), (0x72D, 0x72E), (0x74E, 0x758), (0x75C, 0x76A),
   (0x76D, 0x770), (0x772, 0x772), (0x775, 0x777), (0x77A, 0x77F), (0x7CA, 0x7EA), (0x841, 0x845),
   (0x848, 0x848), (0x84A, 0x853), (0x855, 0x855), (0x860, 0x860), (0x862, 0x865), (0x868, 0x868),
   (0x886, 0x886), (0x889, 0x88D), (0x88F, 0x88F), (0x8A0, 0x8A9), (0x8AF, 0x8B0), (0x8B3, 0x8B8),
   (0x8BA, 0x8C8), (0x1807, 0x1807), (0x1820, 0x1878), (0x1887, 0x18A8), (0x18AA, 0x18AA),
   (0xA840, 0xA872), (0x10AC0, 0x10AC4), (0x10ACD, 0x10ACD), (0x10AD3, 0x10ADC), (0x10ADE, 0x10AE0),
   (0x10AEB, 0x10AEE), (0x10B80, 0x10B80), (0x10B82, 0x10B82), (0x10B86, 0x10B88),
   (0x10B8A, 0x10B8B), (0x10B8D, 0x10B8D), (0x10B90, 0x10B90), (0x10BAD, 0x10BAE),
   (0x10D00, 0x10D21), (0x10D23, 0x10D23), (0x10EC3, 0x10EC4), (0x10EC6, 0x10EC7),
   (0x10F30, 0x10F32), (0x10F34, 0x10F44), (0x10F51, 0x10F53), (0x10F70, 0x10F73),
   (0x10F76, 0x10F81), (0x10FB0, 0x10FB0), (0x10FB2, 0x10FB3), (0x10FB8, 0x10FB8),
   (0x10FBB, 0x10FBC), (0x10FBE, 0x10FBF), (0x10FC1, 0x10FC1), (0x10FC4, 0x10FC4),
   (0x10FCA, 0x10FCB), (0x1E900, 0x1E943)]

/-- The ranges of letters that are joined to a letter before them. -/
def joinedBeforeRanges : List (Nat × Nat) :=
  [(0x620, 0x620), (0x622, 0x63F), (0x641, 0x64A), (0x66E, 0x66F), (0x671, 0x673), (0x675, 0x6D3),
   (0x6D5, 0x6D5), (0x6EE, 0x6EF), (0x6FA, 0x6FC), (0x6FF, 0x6FF), (0x710, 0x710), (0x712, 0x72F),
   (0x74D, 0x77F), (0x7CA, 0x7EA), (0x840, 0x858), (0x860, 0x860), (0x862, 0x865), (0x867, 0x86A),
   (0x870, 0x882), (0x886, 0x886), (0x889, 0x88F), (0x8A0, 0x8AC), (0x8AE, 0x8C8), (0x1807, 0x1807),
   (0x1820, 0x1878), (0x1887, 0x18A8), (0x18AA, 0x18AA), (0xA840, 0xA871), (0x10AC0, 0x10AC5),
   (0x10AC7, 0x10AC7), (0x10AC9, 0x10ACA), (0x10ACE, 0x10AD6), (0x10AD8, 0x10AE1),
   (0x10AE4, 0x10AE4), (0x10AEB, 0x10AEF), (0x10B80, 0x10B91), (0x10BA9, 0x10BAE),
   (0x10D01, 0x10D23), (0x10EC2, 0x10EC4), (0x10EC6, 0x10EC7), (0x10F30, 0x10F44),
   (0x10F51, 0x10F54), (0x10F70, 0x10F81), (0x10FB0, 0x10FB0), (0x10FB2, 0x10FB6),
   (0x10FB8, 0x10FBF), (0x10FC1, 0x10FC4), (0x10FC9, 0x10FCA), (0x1E900, 0x1E943)]

/-- The ranges of further characters that letters are joined across. -/
def passedRanges : List (Nat × Nat) :=
  [(0xAD, 0xAD), (0x61C, 0x61C), (0x70F, 0x70F), (0x897, 0x897), (0xCBF, 0xCBF), (0xCC6, 0xCC6),
   (0xECE, 0xECE), (0x1ACF, 0x1ADD), (0x1AE0, 0x1AEB), (0x200B, 0x200B), (0x200E, 0x200F),
   (0x202A, 0x202E), (0x2060, 0x2064), (0x206A, 0x206F), (0xFEFF, 0xFEFF), (0xFFF9, 0xFFFB),
   (0x10D69, 0x10D6D), (0x10EFA, 0x10EFF), (0x11241, 0x11241), (0x113BB, 0x113C0),
   (0x113CE, 0x113CE), (0x113D0, 0x113D0), (0x113D2, 0x113D2), (0x113E1, 0x113E2),
   (0x11A07, 0x11A08), (0x11B60, 0x11B60), (0x11B62, 0x11B64), (0x11B66, 0x11B66),
   (0x11C3F, 0x11C3F), (0x11F00, 0x11F01), (0x11F36, 0x11F3A), (0x11F40, 0x11F40),
   (0x11F42, 0x11F42), (0x11F5A, 0x11F5A), (0x13430, 0x13440), (0x13447, 0x13455),
   (0x1611E, 0x16129), (0x1612D, 0x1612F), (0x1BCA0, 0x1BCA3), (0x1D173, 0x1D17A),
   (0x1E08F, 0x1E08F), (0x1E4EC, 0x1E4EF), (0x1E5EE, 0x1E5EF), (0x1E6E3, 0x1E6E3),
   (0x1E6E6, 0x1E6E6), (0x1E6EE, 0x1E6EF), (0x1E6F5, 0x1E6F5), (0x1E94B, 0x1E94B),
   (0xE0001, 0xE0001), (0xE0020, 0xE007F)]

/-- Whether a character is joined to the one after it. -/
def isJoinedAfter (n : Nat) : Bool :=
  inRanges joinedAfterRanges n

/-- Whether a character is joined to the one before it. -/
def isJoinedBefore (n : Nat) : Bool :=
  inRanges joinedBeforeRanges n

/-- Whether letters are joined across a character. All marks without space of their own but one are
such characters. -/
def isPassed (n : Nat) : Bool :=
  (isNonspacing n && n ≠ 0x1171E) || inRanges passedRanges n

end BrainfuckWasm.Text
