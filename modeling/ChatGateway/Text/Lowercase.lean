/-! # Lowercasing by the Unicode case mapping

`Text.lowercase` applies the full Unicode lowercase mapping of Unicode 17.0, character by
character, with the one context rule the standard gives for it:

* a capital sigma becomes final sigma `ς` when it ends a word (a cased letter stands before it
  and none after it, skipping case-ignorable marks on both sides), and `σ` otherwise;
* capital I with dot above becomes `i` followed by a combining dot above, the only character
  whose lowercase form is two characters;
* every other character maps through `Text.lowercaseRuns`, and characters outside every run are
  their own lowercase form.

The tables are data of the standard. `lowercaseRuns` groups characters that lowercase by one
offset at a fixed stride (`A`…`Z` by 32, the alternating pairs of Latin Extended-A by one at
stride two); `sigmaContexts` gives, from each listed character up to the next, whether the
characters are case-ignorable (2), cased and not case-ignorable (1), or neither (0).
-/

namespace ChatGateway

namespace Text

/-- **A run of characters lowercased by one offset:** `first`, `first + step`, … up to `last`,
each mapped to itself plus `offset`. -/
structure CaseRun where
  first : Nat
  last : Nat
  offset : Int
  step : Nat

/-- Whether a code point belongs to the run. -/
def CaseRun.covers (r : CaseRun) (n : Nat) : Bool :=
  r.first ≤ n && n ≤ r.last && (n - r.first) % r.step == 0

/-- The single-character lowercase mappings, by ascending code point. -/
def lowercaseRuns : Array CaseRun := #[
  ⟨0x41, 0x5A, 32, 1⟩,
  ⟨0xC0, 0xD6, 32, 1⟩,
  ⟨0xD8, 0xDE, 32, 1⟩,
  ⟨0x100, 0x12E, 1, 2⟩,
  ⟨0x132, 0x136, 1, 2⟩,
  ⟨0x139, 0x147, 1, 2⟩,
  ⟨0x14A, 0x176, 1, 2⟩,
  ⟨0x178, 0x178, -121, 1⟩,
  ⟨0x179, 0x17D, 1, 2⟩,
  ⟨0x181, 0x181, 210, 1⟩,
  ⟨0x182, 0x184, 1, 2⟩,
  ⟨0x186, 0x186, 206, 1⟩,
  ⟨0x187, 0x187, 1, 1⟩,
  ⟨0x189, 0x18A, 205, 1⟩,
  ⟨0x18B, 0x18B, 1, 1⟩,
  ⟨0x18E, 0x18E, 79, 1⟩,
  ⟨0x18F, 0x18F, 202, 1⟩,
  ⟨0x190, 0x190, 203, 1⟩,
  ⟨0x191, 0x191, 1, 1⟩,
  ⟨0x193, 0x193, 205, 1⟩,
  ⟨0x194, 0x194, 207, 1⟩,
  ⟨0x196, 0x196, 211, 1⟩,
  ⟨0x197, 0x197, 209, 1⟩,
  ⟨0x198, 0x198, 1, 1⟩,
  ⟨0x19C, 0x19C, 211, 1⟩,
  ⟨0x19D, 0x19D, 213, 1⟩,
  ⟨0x19F, 0x19F, 214, 1⟩,
  ⟨0x1A0, 0x1A4, 1, 2⟩,
  ⟨0x1A6, 0x1A6, 218, 1⟩,
  ⟨0x1A7, 0x1A7, 1, 1⟩,
  ⟨0x1A9, 0x1A9, 218, 1⟩,
  ⟨0x1AC, 0x1AC, 1, 1⟩,
  ⟨0x1AE, 0x1AE, 218, 1⟩,
  ⟨0x1AF, 0x1AF, 1, 1⟩,
  ⟨0x1B1, 0x1B2, 217, 1⟩,
  ⟨0x1B3, 0x1B5, 1, 2⟩,
  ⟨0x1B7, 0x1B7, 219, 1⟩,
  ⟨0x1B8, 0x1B8, 1, 1⟩,
  ⟨0x1BC, 0x1BC, 1, 1⟩,
  ⟨0x1C4, 0x1C4, 2, 1⟩,
  ⟨0x1C5, 0x1C5, 1, 1⟩,
  ⟨0x1C7, 0x1C7, 2, 1⟩,
  ⟨0x1C8, 0x1C8, 1, 1⟩,
  ⟨0x1CA, 0x1CA, 2, 1⟩,
  ⟨0x1CB, 0x1DB, 1, 2⟩,
  ⟨0x1DE, 0x1EE, 1, 2⟩,
  ⟨0x1F1, 0x1F1, 2, 1⟩,
  ⟨0x1F2, 0x1F4, 1, 2⟩,
  ⟨0x1F6, 0x1F6, -97, 1⟩,
  ⟨0x1F7, 0x1F7, -56, 1⟩,
  ⟨0x1F8, 0x21E, 1, 2⟩,
  ⟨0x220, 0x220, -130, 1⟩,
  ⟨0x222, 0x232, 1, 2⟩,
  ⟨0x23A, 0x23A, 10795, 1⟩,
  ⟨0x23B, 0x23B, 1, 1⟩,
  ⟨0x23D, 0x23D, -163, 1⟩,
  ⟨0x23E, 0x23E, 10792, 1⟩,
  ⟨0x241, 0x241, 1, 1⟩,
  ⟨0x243, 0x243, -195, 1⟩,
  ⟨0x244, 0x244, 69, 1⟩,
  ⟨0x245, 0x245, 71, 1⟩,
  ⟨0x246, 0x24E, 1, 2⟩,
  ⟨0x370, 0x372, 1, 2⟩,
  ⟨0x376, 0x376, 1, 1⟩,
  ⟨0x37F, 0x37F, 116, 1⟩,
  ⟨0x386, 0x386, 38, 1⟩,
  ⟨0x388, 0x38A, 37, 1⟩,
  ⟨0x38C, 0x38C, 64, 1⟩,
  ⟨0x38E, 0x38F, 63, 1⟩,
  ⟨0x391, 0x3A1, 32, 1⟩,
  ⟨0x3A3, 0x3AB, 32, 1⟩,
  ⟨0x3CF, 0x3CF, 8, 1⟩,
  ⟨0x3D8, 0x3EE, 1, 2⟩,
  ⟨0x3F4, 0x3F4, -60, 1⟩,
  ⟨0x3F7, 0x3F7, 1, 1⟩,
  ⟨0x3F9, 0x3F9, -7, 1⟩,
  ⟨0x3FA, 0x3FA, 1, 1⟩,
  ⟨0x3FD, 0x3FF, -130, 1⟩,
  ⟨0x400, 0x40F, 80, 1⟩,
  ⟨0x410, 0x42F, 32, 1⟩,
  ⟨0x460, 0x480, 1, 2⟩,
  ⟨0x48A, 0x4BE, 1, 2⟩,
  ⟨0x4C0, 0x4C0, 15, 1⟩,
  ⟨0x4C1, 0x4CD, 1, 2⟩,
  ⟨0x4D0, 0x52E, 1, 2⟩,
  ⟨0x531, 0x556, 48, 1⟩,
  ⟨0x10A0, 0x10C5, 7264, 1⟩,
  ⟨0x10C7, 0x10C7, 7264, 1⟩,
  ⟨0x10CD, 0x10CD, 7264, 1⟩,
  ⟨0x13A0, 0x13EF, 38864, 1⟩,
  ⟨0x13F0, 0x13F5, 8, 1⟩,
  ⟨0x1C89, 0x1C89, 1, 1⟩,
  ⟨0x1C90, 0x1CBA, -3008, 1⟩,
  ⟨0x1CBD, 0x1CBF, -3008, 1⟩,
  ⟨0x1E00, 0x1E94, 1, 2⟩,
  ⟨0x1E9E, 0x1E9E, -7615, 1⟩,
  ⟨0x1EA0, 0x1EFE, 1, 2⟩,
  ⟨0x1F08, 0x1F0F, -8, 1⟩,
  ⟨0x1F18, 0x1F1D, -8, 1⟩,
  ⟨0x1F28, 0x1F2F, -8, 1⟩,
  ⟨0x1F38, 0x1F3F, -8, 1⟩,
  ⟨0x1F48, 0x1F4D, -8, 1⟩,
  ⟨0x1F59, 0x1F5F, -8, 2⟩,
  ⟨0x1F68, 0x1F6F, -8, 1⟩,
  ⟨0x1F88, 0x1F8F, -8, 1⟩,
  ⟨0x1F98, 0x1F9F, -8, 1⟩,
  ⟨0x1FA8, 0x1FAF, -8, 1⟩,
  ⟨0x1FB8, 0x1FB9, -8, 1⟩,
  ⟨0x1FBA, 0x1FBB, -74, 1⟩,
  ⟨0x1FBC, 0x1FBC, -9, 1⟩,
  ⟨0x1FC8, 0x1FCB, -86, 1⟩,
  ⟨0x1FCC, 0x1FCC, -9, 1⟩,
  ⟨0x1FD8, 0x1FD9, -8, 1⟩,
  ⟨0x1FDA, 0x1FDB, -100, 1⟩,
  ⟨0x1FE8, 0x1FE9, -8, 1⟩,
  ⟨0x1FEA, 0x1FEB, -112, 1⟩,
  ⟨0x1FEC, 0x1FEC, -7, 1⟩,
  ⟨0x1FF8, 0x1FF9, -128, 1⟩,
  ⟨0x1FFA, 0x1FFB, -126, 1⟩,
  ⟨0x1FFC, 0x1FFC, -9, 1⟩,
  ⟨0x2126, 0x2126, -7517, 1⟩,
  ⟨0x212A, 0x212A, -8383, 1⟩,
  ⟨0x212B, 0x212B, -8262, 1⟩,
  ⟨0x2132, 0x2132, 28, 1⟩,
  ⟨0x2160, 0x216F, 16, 1⟩,
  ⟨0x2183, 0x2183, 1, 1⟩,
  ⟨0x24B6, 0x24CF, 26, 1⟩,
  ⟨0x2C00, 0x2C2F, 48, 1⟩,
  ⟨0x2C60, 0x2C60, 1, 1⟩,
  ⟨0x2C62, 0x2C62, -10743, 1⟩,
  ⟨0x2C63, 0x2C63, -3814, 1⟩,
  ⟨0x2C64, 0x2C64, -10727, 1⟩,
  ⟨0x2C67, 0x2C6B, 1, 2⟩,
  ⟨0x2C6D, 0x2C6D, -10780, 1⟩,
  ⟨0x2C6E, 0x2C6E, -10749, 1⟩,
  ⟨0x2C6F, 0x2C6F, -10783, 1⟩,
  ⟨0x2C70, 0x2C70, -10782, 1⟩,
  ⟨0x2C72, 0x2C72, 1, 1⟩,
  ⟨0x2C75, 0x2C75, 1, 1⟩,
  ⟨0x2C7E, 0x2C7F, -10815, 1⟩,
  ⟨0x2C80, 0x2CE2, 1, 2⟩,
  ⟨0x2CEB, 0x2CED, 1, 2⟩,
  ⟨0x2CF2, 0x2CF2, 1, 1⟩,
  ⟨0xA640, 0xA66C, 1, 2⟩,
  ⟨0xA680, 0xA69A, 1, 2⟩,
  ⟨0xA722, 0xA72E, 1, 2⟩,
  ⟨0xA732, 0xA76E, 1, 2⟩,
  ⟨0xA779, 0xA77B, 1, 2⟩,
  ⟨0xA77D, 0xA77D, -35332, 1⟩,
  ⟨0xA77E, 0xA786, 1, 2⟩,
  ⟨0xA78B, 0xA78B, 1, 1⟩,
  ⟨0xA78D, 0xA78D, -42280, 1⟩,
  ⟨0xA790, 0xA792, 1, 2⟩,
  ⟨0xA796, 0xA7A8, 1, 2⟩,
  ⟨0xA7AA, 0xA7AA, -42308, 1⟩,
  ⟨0xA7AB, 0xA7AB, -42319, 1⟩,
  ⟨0xA7AC, 0xA7AC, -42315, 1⟩,
  ⟨0xA7AD, 0xA7AD, -42305, 1⟩,
  ⟨0xA7AE, 0xA7AE, -42308, 1⟩,
  ⟨0xA7B0, 0xA7B0, -42258, 1⟩,
  ⟨0xA7B1, 0xA7B1, -42282, 1⟩,
  ⟨0xA7B2, 0xA7B2, -42261, 1⟩,
  ⟨0xA7B3, 0xA7B3, 928, 1⟩,
  ⟨0xA7B4, 0xA7C2, 1, 2⟩,
  ⟨0xA7C4, 0xA7C4, -48, 1⟩,
  ⟨0xA7C5, 0xA7C5, -42307, 1⟩,
  ⟨0xA7C6, 0xA7C6, -35384, 1⟩,
  ⟨0xA7C7, 0xA7C9, 1, 2⟩,
  ⟨0xA7CB, 0xA7CB, -42343, 1⟩,
  ⟨0xA7CC, 0xA7DA, 1, 2⟩,
  ⟨0xA7DC, 0xA7DC, -42561, 1⟩,
  ⟨0xA7F5, 0xA7F5, 1, 1⟩,
  ⟨0xFF21, 0xFF3A, 32, 1⟩,
  ⟨0x10400, 0x10427, 40, 1⟩,
  ⟨0x104B0, 0x104D3, 40, 1⟩,
  ⟨0x10570, 0x1057A, 39, 1⟩,
  ⟨0x1057C, 0x1058A, 39, 1⟩,
  ⟨0x1058C, 0x10592, 39, 1⟩,
  ⟨0x10594, 0x10595, 39, 1⟩,
  ⟨0x10C80, 0x10CB2, 64, 1⟩,
  ⟨0x10D50, 0x10D65, 32, 1⟩,
  ⟨0x118A0, 0x118BF, 32, 1⟩,
  ⟨0x16E40, 0x16E5F, 32, 1⟩,
  ⟨0x16EA0, 0x16EB8, 27, 1⟩,
  ⟨0x1E900, 0x1E921, 34, 1⟩
]

/-- Context classes for final sigma, as (first code point, class) in ascending order. -/
def sigmaContexts : Array (Nat × Nat) := #[
  (0x0, 0), (0x27, 2), (0x28, 0), (0x2E, 2), (0x2F, 0), (0x3A, 2), (0x3B, 0), (0x41, 1), (0x5B, 0),
  (0x5E, 2), (0x5F, 0), (0x60, 2), (0x61, 1), (0x7B, 0), (0xA8, 2), (0xA9, 0), (0xAA, 1), (0xAB, 0),
  (0xAD, 2), (0xAE, 0), (0xAF, 2), (0xB0, 0), (0xB4, 2), (0xB5, 1), (0xB6, 0), (0xB7, 2), (0xB9, 0),
  (0xBA, 1), (0xBB, 0), (0xC0, 1), (0xD7, 0), (0xD8, 1), (0xF7, 0), (0xF8, 1), (0x1BB, 0),
  (0x1BC, 1), (0x1C0, 0), (0x1C4, 1), (0x294, 0), (0x296, 1), (0x2B0, 2), (0x370, 1), (0x374, 2),
  (0x376, 1), (0x378, 0), (0x37A, 2), (0x37B, 1), (0x37E, 0), (0x37F, 1), (0x380, 0), (0x384, 2),
  (0x386, 1), (0x387, 2), (0x388, 1), (0x38B, 0), (0x38C, 1), (0x38D, 0), (0x38E, 1), (0x3A2, 0),
  (0x3A3, 1), (0x3F6, 0), (0x3F7, 1), (0x482, 0), (0x483, 2), (0x48A, 1), (0x530, 0), (0x531, 1),
  (0x557, 0), (0x559, 2), (0x55A, 0), (0x55F, 2), (0x560, 1), (0x589, 0), (0x591, 2), (0x5BE, 0),
  (0x5BF, 2), (0x5C0, 0), (0x5C1, 2), (0x5C3, 0), (0x5C4, 2), (0x5C6, 0), (0x5C7, 2), (0x5C8, 0),
  (0x5F4, 2), (0x5F5, 0), (0x600, 2), (0x606, 0), (0x610, 2), (0x61B, 0), (0x61C, 2), (0x61D, 0),
  (0x640, 2), (0x641, 0), (0x64B, 2), (0x660, 0), (0x670, 2), (0x671, 0), (0x6D6, 2), (0x6DE, 0),
  (0x6DF, 2), (0x6E9, 0), (0x6EA, 2), (0x6EE, 0), (0x70F, 2), (0x710, 0), (0x711, 2), (0x712, 0),
  (0x730, 2), (0x74B, 0), (0x7A6, 2), (0x7B1, 0), (0x7EB, 2), (0x7F6, 0), (0x7FA, 2), (0x7FB, 0),
  (0x7FD, 2), (0x7FE, 0), (0x816, 2), (0x82E, 0), (0x859, 2), (0x85C, 0), (0x888, 2), (0x889, 0),
  (0x890, 2), (0x892, 0), (0x897, 2), (0x8A0, 0), (0x8C9, 2), (0x903, 0), (0x93A, 2), (0x93B, 0),
  (0x93C, 2), (0x93D, 0), (0x941, 2), (0x949, 0), (0x94D, 2), (0x94E, 0), (0x951, 2), (0x958, 0),
  (0x962, 2), (0x964, 0), (0x971, 2), (0x972, 0), (0x981, 2), (0x982, 0), (0x9BC, 2), (0x9BD, 0),
  (0x9C1, 2), (0x9C5, 0), (0x9CD, 2), (0x9CE, 0), (0x9E2, 2), (0x9E4, 0), (0x9FE, 2), (0x9FF, 0),
  (0xA01, 2), (0xA03, 0), (0xA3C, 2), (0xA3D, 0), (0xA41, 2), (0xA43, 0), (0xA47, 2), (0xA49, 0),
  (0xA4B, 2), (0xA4E, 0), (0xA51, 2), (0xA52, 0), (0xA70, 2), (0xA72, 0), (0xA75, 2), (0xA76, 0),
  (0xA81, 2), (0xA83, 0), (0xABC, 2), (0xABD, 0), (0xAC1, 2), (0xAC6, 0), (0xAC7, 2), (0xAC9, 0),
  (0xACD, 2), (0xACE, 0), (0xAE2, 2), (0xAE4, 0), (0xAFA, 2), (0xB00, 0), (0xB01, 2), (0xB02, 0),
  (0xB3C, 2), (0xB3D, 0), (0xB3F, 2), (0xB40, 0), (0xB41, 2), (0xB45, 0), (0xB4D, 2), (0xB4E, 0),
  (0xB55, 2), (0xB57, 0), (0xB62, 2), (0xB64, 0), (0xB82, 2), (0xB83, 0), (0xBC0, 2), (0xBC1, 0),
  (0xBCD, 2), (0xBCE, 0), (0xC00, 2), (0xC01, 0), (0xC04, 2), (0xC05, 0), (0xC3C, 2), (0xC3D, 0),
  (0xC3E, 2), (0xC41, 0), (0xC46, 2), (0xC49, 0), (0xC4A, 2), (0xC4E, 0), (0xC55, 2), (0xC57, 0),
  (0xC62, 2), (0xC64, 0), (0xC81, 2), (0xC82, 0), (0xCBC, 2), (0xCBD, 0), (0xCBF, 2), (0xCC0, 0),
  (0xCC6, 2), (0xCC7, 0), (0xCCC, 2), (0xCCE, 0), (0xCE2, 2), (0xCE4, 0), (0xD00, 2), (0xD02, 0),
  (0xD3B, 2), (0xD3D, 0), (0xD41, 2), (0xD45, 0), (0xD4D, 2), (0xD4E, 0), (0xD62, 2), (0xD64, 0),
  (0xD81, 2), (0xD82, 0), (0xDCA, 2), (0xDCB, 0), (0xDD2, 2), (0xDD5, 0), (0xDD6, 2), (0xDD7, 0),
  (0xE31, 2), (0xE32, 0), (0xE34, 2), (0xE3B, 0), (0xE46, 2), (0xE4F, 0), (0xEB1, 2), (0xEB2, 0),
  (0xEB4, 2), (0xEBD, 0), (0xEC6, 2), (0xEC7, 0), (0xEC8, 2), (0xECF, 0), (0xF18, 2), (0xF1A, 0),
  (0xF35, 2), (0xF36, 0), (0xF37, 2), (0xF38, 0), (0xF39, 2), (0xF3A, 0), (0xF71, 2), (0xF7F, 0),
  (0xF80, 2), (0xF85, 0), (0xF86, 2), (0xF88, 0), (0xF8D, 2), (0xF98, 0), (0xF99, 2), (0xFBD, 0),
  (0xFC6, 2), (0xFC7, 0), (0x102D, 2), (0x1031, 0), (0x1032, 2), (0x1038, 0), (0x1039, 2),
  (0x103B, 0), (0x103D, 2), (0x103F, 0), (0x1058, 2), (0x105A, 0), (0x105E, 2), (0x1061, 0),
  (0x1071, 2), (0x1075, 0), (0x1082, 2), (0x1083, 0), (0x1085, 2), (0x1087, 0), (0x108D, 2),
  (0x108E, 0), (0x109D, 2), (0x109E, 0), (0x10A0, 1), (0x10C6, 0), (0x10C7, 1), (0x10C8, 0),
  (0x10CD, 1), (0x10CE, 0), (0x10D0, 1), (0x10FB, 0), (0x10FC, 2), (0x10FD, 1), (0x1100, 0),
  (0x135D, 2), (0x1360, 0), (0x13A0, 1), (0x13F6, 0), (0x13F8, 1), (0x13FE, 0), (0x1712, 2),
  (0x1715, 0), (0x1732, 2), (0x1734, 0), (0x1752, 2), (0x1754, 0), (0x1772, 2), (0x1774, 0),
  (0x17B4, 2), (0x17B6, 0), (0x17B7, 2), (0x17BE, 0), (0x17C6, 2), (0x17C7, 0), (0x17C9, 2),
  (0x17D4, 0), (0x17D7, 2), (0x17D8, 0), (0x17DD, 2), (0x17DE, 0), (0x180B, 2), (0x1810, 0),
  (0x1843, 2), (0x1844, 0), (0x1885, 2), (0x1887, 0), (0x18A9, 2), (0x18AA, 0), (0x1920, 2),
  (0x1923, 0), (0x1927, 2), (0x1929, 0), (0x1932, 2), (0x1933, 0), (0x1939, 2), (0x193C, 0),
  (0x1A17, 2), (0x1A19, 0), (0x1A1B, 2), (0x1A1C, 0), (0x1A56, 2), (0x1A57, 0), (0x1A58, 2),
  (0x1A5F, 0), (0x1A60, 2), (0x1A61, 0), (0x1A62, 2), (0x1A63, 0), (0x1A65, 2), (0x1A6D, 0),
  (0x1A73, 2), (0x1A7D, 0), (0x1A7F, 2), (0x1A80, 0), (0x1AA7, 2), (0x1AA8, 0), (0x1AB0, 2),
  (0x1ADE, 0), (0x1AE0, 2), (0x1AEC, 0), (0x1B00, 2), (0x1B04, 0), (0x1B34, 2), (0x1B35, 0),
  (0x1B36, 2), (0x1B3B, 0), (0x1B3C, 2), (0x1B3D, 0), (0x1B42, 2), (0x1B43, 0), (0x1B6B, 2),
  (0x1B74, 0), (0x1B80, 2), (0x1B82, 0), (0x1BA2, 2), (0x1BA6, 0), (0x1BA8, 2), (0x1BAA, 0),
  (0x1BAB, 2), (0x1BAE, 0), (0x1BE6, 2), (0x1BE7, 0), (0x1BE8, 2), (0x1BEA, 0), (0x1BED, 2),
  (0x1BEE, 0), (0x1BEF, 2), (0x1BF2, 0), (0x1C2C, 2), (0x1C34, 0), (0x1C36, 2), (0x1C38, 0),
  (0x1C78, 2), (0x1C7E, 0), (0x1C80, 1), (0x1C8B, 0), (0x1C90, 1), (0x1CBB, 0), (0x1CBD, 1),
  (0x1CC0, 0), (0x1CD0, 2), (0x1CD3, 0), (0x1CD4, 2), (0x1CE1, 0), (0x1CE2, 2), (0x1CE9, 0),
  (0x1CED, 2), (0x1CEE, 0), (0x1CF4, 2), (0x1CF5, 0), (0x1CF8, 2), (0x1CFA, 0), (0x1D00, 1),
  (0x1D2C, 2), (0x1D6B, 1), (0x1D78, 2), (0x1D79, 1), (0x1D9B, 2), (0x1E00, 1), (0x1F16, 0),
  (0x1F18, 1), (0x1F1E, 0), (0x1F20, 1), (0x1F46, 0), (0x1F48, 1), (0x1F4E, 0), (0x1F50, 1),
  (0x1F58, 0), (0x1F59, 1), (0x1F5A, 0), (0x1F5B, 1), (0x1F5C, 0), (0x1F5D, 1), (0x1F5E, 0),
  (0x1F5F, 1), (0x1F7E, 0), (0x1F80, 1), (0x1FB5, 0), (0x1FB6, 1), (0x1FBD, 2), (0x1FBE, 1),
  (0x1FBF, 2), (0x1FC2, 1), (0x1FC5, 0), (0x1FC6, 1), (0x1FCD, 2), (0x1FD0, 1), (0x1FD4, 0),
  (0x1FD6, 1), (0x1FDC, 0), (0x1FDD, 2), (0x1FE0, 1), (0x1FED, 2), (0x1FF0, 0), (0x1FF2, 1),
  (0x1FF5, 0), (0x1FF6, 1), (0x1FFD, 2), (0x1FFF, 0), (0x200B, 2), (0x2010, 0), (0x2018, 2),
  (0x201A, 0), (0x2024, 2), (0x2025, 0), (0x2027, 2), (0x2028, 0), (0x202A, 2), (0x202F, 0),
  (0x2060, 2), (0x2065, 0), (0x2066, 2), (0x2070, 0), (0x2071, 2), (0x2072, 0), (0x207F, 2),
  (0x2080, 0), (0x2090, 2), (0x209D, 0), (0x20D0, 2), (0x20F1, 0), (0x2102, 1), (0x2103, 0),
  (0x2107, 1), (0x2108, 0), (0x210A, 1), (0x2114, 0), (0x2115, 1), (0x2116, 0), (0x2119, 1),
  (0x211E, 0), (0x2124, 1), (0x2125, 0), (0x2126, 1), (0x2127, 0), (0x2128, 1), (0x2129, 0),
  (0x212A, 1), (0x212E, 0), (0x212F, 1), (0x2135, 0), (0x2139, 1), (0x213A, 0), (0x213C, 1),
  (0x2140, 0), (0x2145, 1), (0x214A, 0), (0x214E, 1), (0x214F, 0), (0x2160, 1), (0x2180, 0),
  (0x2183, 1), (0x2185, 0), (0x24B6, 1), (0x24EA, 0), (0x2C00, 1), (0x2C7C, 2), (0x2C7E, 1),
  (0x2CE5, 0), (0x2CEB, 1), (0x2CEF, 2), (0x2CF2, 1), (0x2CF4, 0), (0x2D00, 1), (0x2D26, 0),
  (0x2D27, 1), (0x2D28, 0), (0x2D2D, 1), (0x2D2E, 0), (0x2D6F, 2), (0x2D70, 0), (0x2D7F, 2),
  (0x2D80, 0), (0x2DE0, 2), (0x2E00, 0), (0x2E2F, 2), (0x2E30, 0), (0x3005, 2), (0x3006, 0),
  (0x302A, 2), (0x302E, 0), (0x3031, 2), (0x3036, 0), (0x303B, 2), (0x303C, 0), (0x3099, 2),
  (0x309F, 0), (0x30FC, 2), (0x30FF, 0), (0xA015, 2), (0xA016, 0), (0xA4F8, 2), (0xA4FE, 0),
  (0xA60C, 2), (0xA60D, 0), (0xA640, 1), (0xA66E, 0), (0xA66F, 2), (0xA673, 0), (0xA674, 2),
  (0xA67E, 0), (0xA67F, 2), (0xA680, 1), (0xA69C, 2), (0xA6A0, 0), (0xA6F0, 2), (0xA6F2, 0),
  (0xA700, 2), (0xA722, 1), (0xA770, 2), (0xA771, 1), (0xA788, 2), (0xA78B, 1), (0xA78F, 0),
  (0xA790, 1), (0xA7DD, 0), (0xA7F1, 2), (0xA7F5, 1), (0xA7F7, 0), (0xA7F8, 2), (0xA7FA, 1),
  (0xA7FB, 0), (0xA802, 2), (0xA803, 0), (0xA806, 2), (0xA807, 0), (0xA80B, 2), (0xA80C, 0),
  (0xA825, 2), (0xA827, 0), (0xA82C, 2), (0xA82D, 0), (0xA8C4, 2), (0xA8C6, 0), (0xA8E0, 2),
  (0xA8F2, 0), (0xA8FF, 2), (0xA900, 0), (0xA926, 2), (0xA92E, 0), (0xA947, 2), (0xA952, 0),
  (0xA980, 2), (0xA983, 0), (0xA9B3, 2), (0xA9B4, 0), (0xA9B6, 2), (0xA9BA, 0), (0xA9BC, 2),
  (0xA9BE, 0), (0xA9CF, 2), (0xA9D0, 0), (0xA9E5, 2), (0xA9E7, 0), (0xAA29, 2), (0xAA2F, 0),
  (0xAA31, 2), (0xAA33, 0), (0xAA35, 2), (0xAA37, 0), (0xAA43, 2), (0xAA44, 0), (0xAA4C, 2),
  (0xAA4D, 0), (0xAA70, 2), (0xAA71, 0), (0xAA7C, 2), (0xAA7D, 0), (0xAAB0, 2), (0xAAB1, 0),
  (0xAAB2, 2), (0xAAB5, 0), (0xAAB7, 2), (0xAAB9, 0), (0xAABE, 2), (0xAAC0, 0), (0xAAC1, 2),
  (0xAAC2, 0), (0xAADD, 2), (0xAADE, 0), (0xAAEC, 2), (0xAAEE, 0), (0xAAF3, 2), (0xAAF5, 0),
  (0xAAF6, 2), (0xAAF7, 0), (0xAB30, 1), (0xAB5B, 2), (0xAB60, 1), (0xAB69, 2), (0xAB6C, 0),
  (0xAB70, 1), (0xABC0, 0), (0xABE5, 2), (0xABE6, 0), (0xABE8, 2), (0xABE9, 0), (0xABED, 2),
  (0xABEE, 0), (0xFB00, 1), (0xFB07, 0), (0xFB13, 1), (0xFB18, 0), (0xFB1E, 2), (0xFB1F, 0),
  (0xFBB2, 2), (0xFBC3, 0), (0xFE00, 2), (0xFE10, 0), (0xFE13, 2), (0xFE14, 0), (0xFE20, 2),
  (0xFE30, 0), (0xFE52, 2), (0xFE53, 0), (0xFE55, 2), (0xFE56, 0), (0xFEFF, 2), (0xFF00, 0),
  (0xFF07, 2), (0xFF08, 0), (0xFF0E, 2), (0xFF0F, 0), (0xFF1A, 2), (0xFF1B, 0), (0xFF21, 1),
  (0xFF3B, 0), (0xFF3E, 2), (0xFF3F, 0), (0xFF40, 2), (0xFF41, 1), (0xFF5B, 0), (0xFF70, 2),
  (0xFF71, 0), (0xFF9E, 2), (0xFFA0, 0), (0xFFE3, 2), (0xFFE4, 0), (0xFFF9, 2), (0xFFFC, 0),
  (0x101FD, 2), (0x101FE, 0), (0x102E0, 2), (0x102E1, 0), (0x10376, 2), (0x1037B, 0), (0x10400, 1),
  (0x10450, 0), (0x104B0, 1), (0x104D4, 0), (0x104D8, 1), (0x104FC, 0), (0x10570, 1), (0x1057B, 0),
  (0x1057C, 1), (0x1058B, 0), (0x1058C, 1), (0x10593, 0), (0x10594, 1), (0x10596, 0), (0x10597, 1),
  (0x105A2, 0), (0x105A3, 1), (0x105B2, 0), (0x105B3, 1), (0x105BA, 0), (0x105BB, 1), (0x105BD, 0),
  (0x10780, 2), (0x10786, 0), (0x10787, 2), (0x107B1, 0), (0x107B2, 2), (0x107BB, 0), (0x10A01, 2),
  (0x10A04, 0), (0x10A05, 2), (0x10A07, 0), (0x10A0C, 2), (0x10A10, 0), (0x10A38, 2), (0x10A3B, 0),
  (0x10A3F, 2), (0x10A40, 0), (0x10AE5, 2), (0x10AE7, 0), (0x10C80, 1), (0x10CB3, 0), (0x10CC0, 1),
  (0x10CF3, 0), (0x10D24, 2), (0x10D28, 0), (0x10D4E, 2), (0x10D4F, 0), (0x10D50, 1), (0x10D66, 0),
  (0x10D69, 2), (0x10D6E, 0), (0x10D6F, 2), (0x10D70, 1), (0x10D86, 0), (0x10EAB, 2), (0x10EAD, 0),
  (0x10EC5, 2), (0x10EC6, 0), (0x10EFA, 2), (0x10F00, 0), (0x10F46, 2), (0x10F51, 0), (0x10F82, 2),
  (0x10F86, 0), (0x11001, 2), (0x11002, 0), (0x11038, 2), (0x11047, 0), (0x11070, 2), (0x11071, 0),
  (0x11073, 2), (0x11075, 0), (0x1107F, 2), (0x11082, 0), (0x110B3, 2), (0x110B7, 0), (0x110B9, 2),
  (0x110BB, 0), (0x110BD, 2), (0x110BE, 0), (0x110C2, 2), (0x110C3, 0), (0x110CD, 2), (0x110CE, 0),
  (0x11100, 2), (0x11103, 0), (0x11127, 2), (0x1112C, 0), (0x1112D, 2), (0x11135, 0), (0x11173, 2),
  (0x11174, 0), (0x11180, 2), (0x11182, 0), (0x111B6, 2), (0x111BF, 0), (0x111C9, 2), (0x111CD, 0),
  (0x111CF, 2), (0x111D0, 0), (0x1122F, 2), (0x11232, 0), (0x11234, 2), (0x11235, 0), (0x11236, 2),
  (0x11238, 0), (0x1123E, 2), (0x1123F, 0), (0x11241, 2), (0x11242, 0), (0x112DF, 2), (0x112E0, 0),
  (0x112E3, 2), (0x112EB, 0), (0x11300, 2), (0x11302, 0), (0x1133B, 2), (0x1133D, 0), (0x11340, 2),
  (0x11341, 0), (0x11366, 2), (0x1136D, 0), (0x11370, 2), (0x11375, 0), (0x113BB, 2), (0x113C1, 0),
  (0x113CE, 2), (0x113CF, 0), (0x113D0, 2), (0x113D1, 0), (0x113D2, 2), (0x113D3, 0), (0x113E1, 2),
  (0x113E3, 0), (0x11438, 2), (0x11440, 0), (0x11442, 2), (0x11445, 0), (0x11446, 2), (0x11447, 0),
  (0x1145E, 2), (0x1145F, 0), (0x114B3, 2), (0x114B9, 0), (0x114BA, 2), (0x114BB, 0), (0x114BF, 2),
  (0x114C1, 0), (0x114C2, 2), (0x114C4, 0), (0x115B2, 2), (0x115B6, 0), (0x115BC, 2), (0x115BE, 0),
  (0x115BF, 2), (0x115C1, 0), (0x115DC, 2), (0x115DE, 0), (0x11633, 2), (0x1163B, 0), (0x1163D, 2),
  (0x1163E, 0), (0x1163F, 2), (0x11641, 0), (0x116AB, 2), (0x116AC, 0), (0x116AD, 2), (0x116AE, 0),
  (0x116B0, 2), (0x116B6, 0), (0x116B7, 2), (0x116B8, 0), (0x1171D, 2), (0x1171E, 0), (0x1171F, 2),
  (0x11720, 0), (0x11722, 2), (0x11726, 0), (0x11727, 2), (0x1172C, 0), (0x1182F, 2), (0x11838, 0),
  (0x11839, 2), (0x1183B, 0), (0x118A0, 1), (0x118E0, 0), (0x1193B, 2), (0x1193D, 0), (0x1193E, 2),
  (0x1193F, 0), (0x11943, 2), (0x11944, 0), (0x119D4, 2), (0x119D8, 0), (0x119DA, 2), (0x119DC, 0),
  (0x119E0, 2), (0x119E1, 0), (0x11A01, 2), (0x11A0B, 0), (0x11A33, 2), (0x11A39, 0), (0x11A3B, 2),
  (0x11A3F, 0), (0x11A47, 2), (0x11A48, 0), (0x11A51, 2), (0x11A57, 0), (0x11A59, 2), (0x11A5C, 0),
  (0x11A8A, 2), (0x11A97, 0), (0x11A98, 2), (0x11A9A, 0), (0x11B60, 2), (0x11B61, 0), (0x11B62, 2),
  (0x11B65, 0), (0x11B66, 2), (0x11B67, 0), (0x11C30, 2), (0x11C37, 0), (0x11C38, 2), (0x11C3E, 0),
  (0x11C3F, 2), (0x11C40, 0), (0x11C92, 2), (0x11CA8, 0), (0x11CAA, 2), (0x11CB1, 0), (0x11CB2, 2),
  (0x11CB4, 0), (0x11CB5, 2), (0x11CB7, 0), (0x11D31, 2), (0x11D37, 0), (0x11D3A, 2), (0x11D3B, 0),
  (0x11D3C, 2), (0x11D3E, 0), (0x11D3F, 2), (0x11D46, 0), (0x11D47, 2), (0x11D48, 0), (0x11D90, 2),
  (0x11D92, 0), (0x11D95, 2), (0x11D96, 0), (0x11D97, 2), (0x11D98, 0), (0x11DD9, 2), (0x11DDA, 0),
  (0x11EF3, 2), (0x11EF5, 0), (0x11F00, 2), (0x11F02, 0), (0x11F36, 2), (0x11F3B, 0), (0x11F40, 2),
  (0x11F41, 0), (0x11F42, 2), (0x11F43, 0), (0x11F5A, 2), (0x11F5B, 0), (0x13430, 2), (0x13441, 0),
  (0x13447, 2), (0x13456, 0), (0x1611E, 2), (0x1612A, 0), (0x1612D, 2), (0x16130, 0), (0x16AF0, 2),
  (0x16AF5, 0), (0x16B30, 2), (0x16B37, 0), (0x16B40, 2), (0x16B44, 0), (0x16D40, 2), (0x16D43, 0),
  (0x16D6B, 2), (0x16D6D, 0), (0x16E40, 1), (0x16E80, 0), (0x16EA0, 1), (0x16EB9, 0), (0x16EBB, 1),
  (0x16ED4, 0), (0x16F4F, 2), (0x16F50, 0), (0x16F8F, 2), (0x16FA0, 0), (0x16FE0, 2), (0x16FE2, 0),
  (0x16FE3, 2), (0x16FE5, 0), (0x16FF2, 2), (0x16FF4, 0), (0x1AFF0, 2), (0x1AFF4, 0), (0x1AFF5, 2),
  (0x1AFFC, 0), (0x1AFFD, 2), (0x1AFFF, 0), (0x1BC9D, 2), (0x1BC9F, 0), (0x1BCA0, 2), (0x1BCA4, 0),
  (0x1CF00, 2), (0x1CF2E, 0), (0x1CF30, 2), (0x1CF47, 0), (0x1D167, 2), (0x1D16A, 0), (0x1D173, 2),
  (0x1D183, 0), (0x1D185, 2), (0x1D18C, 0), (0x1D1AA, 2), (0x1D1AE, 0), (0x1D242, 2), (0x1D245, 0),
  (0x1D400, 1), (0x1D455, 0), (0x1D456, 1), (0x1D49D, 0), (0x1D49E, 1), (0x1D4A0, 0), (0x1D4A2, 1),
  (0x1D4A3, 0), (0x1D4A5, 1), (0x1D4A7, 0), (0x1D4A9, 1), (0x1D4AD, 0), (0x1D4AE, 1), (0x1D4BA, 0),
  (0x1D4BB, 1), (0x1D4BC, 0), (0x1D4BD, 1), (0x1D4C4, 0), (0x1D4C5, 1), (0x1D506, 0), (0x1D507, 1),
  (0x1D50B, 0), (0x1D50D, 1), (0x1D515, 0), (0x1D516, 1), (0x1D51D, 0), (0x1D51E, 1), (0x1D53A, 0),
  (0x1D53B, 1), (0x1D53F, 0), (0x1D540, 1), (0x1D545, 0), (0x1D546, 1), (0x1D547, 0), (0x1D54A, 1),
  (0x1D551, 0), (0x1D552, 1), (0x1D6A6, 0), (0x1D6A8, 1), (0x1D6C1, 0), (0x1D6C2, 1), (0x1D6DB, 0),
  (0x1D6DC, 1), (0x1D6FB, 0), (0x1D6FC, 1), (0x1D715, 0), (0x1D716, 1), (0x1D735, 0), (0x1D736, 1),
  (0x1D74F, 0), (0x1D750, 1), (0x1D76F, 0), (0x1D770, 1), (0x1D789, 0), (0x1D78A, 1), (0x1D7A9, 0),
  (0x1D7AA, 1), (0x1D7C3, 0), (0x1D7C4, 1), (0x1D7CC, 0), (0x1DA00, 2), (0x1DA37, 0), (0x1DA3B, 2),
  (0x1DA6D, 0), (0x1DA75, 2), (0x1DA76, 0), (0x1DA84, 2), (0x1DA85, 0), (0x1DA9B, 2), (0x1DAA0, 0),
  (0x1DAA1, 2), (0x1DAB0, 0), (0x1DF00, 1), (0x1DF0A, 0), (0x1DF0B, 1), (0x1DF1F, 0), (0x1DF25, 1),
  (0x1DF2B, 0), (0x1E000, 2), (0x1E007, 0), (0x1E008, 2), (0x1E019, 0), (0x1E01B, 2), (0x1E022, 0),
  (0x1E023, 2), (0x1E025, 0), (0x1E026, 2), (0x1E02B, 0), (0x1E030, 2), (0x1E06E, 0), (0x1E08F, 2),
  (0x1E090, 0), (0x1E130, 2), (0x1E13E, 0), (0x1E2AE, 2), (0x1E2AF, 0), (0x1E2EC, 2), (0x1E2F0, 0),
  (0x1E4EB, 2), (0x1E4F0, 0), (0x1E5EE, 2), (0x1E5F0, 0), (0x1E6E3, 2), (0x1E6E4, 0), (0x1E6E6, 2),
  (0x1E6E7, 0), (0x1E6EE, 2), (0x1E6F0, 0), (0x1E6F5, 2), (0x1E6F6, 0), (0x1E6FF, 2), (0x1E700, 0),
  (0x1E8D0, 2), (0x1E8D7, 0), (0x1E900, 1), (0x1E944, 2), (0x1E94C, 0), (0x1F130, 1), (0x1F14A, 0),
  (0x1F150, 1), (0x1F16A, 0), (0x1F170, 1), (0x1F18A, 0), (0x1F3FB, 2), (0x1F400, 0), (0xE0001, 2),
  (0xE0002, 0), (0xE0020, 2), (0xE0080, 0), (0xE0100, 2), (0xE01F0, 0)
]

/-- The single-character lowercase form. -/
def lowerChar (c : Char) : Char :=
  let n := c.toNat
  if 65 ≤ n && n ≤ 90 then Char.ofNat (n + 32)
  else if n < 128 then c
  else
    match lowercaseRuns.find? (·.covers n) with
    | some r => Char.ofNat (n + r.offset).toNat
    | none => c

/-- The final-sigma class of a character: 2 case-ignorable, 1 cased, 0 neither. -/
def sigmaClass (c : Char) : Nat :=
  sigmaContexts.foldl (fun k (first, cls) => if first ≤ c.toNat then cls else k) 0

/-- Whether, after skipping case-ignorable characters, the next character is cased. -/
def casedAfterIgnorable : List Char → Bool
  | [] => false
  | c :: rest =>
    match sigmaClass c with
    | 2 => casedAfterIgnorable rest
    | 1 => true
    | _ => false

/-- Whether a capital sigma with these neighbours (those before it nearest first) ends a word. -/
def endsWord (before after : List Char) : Bool :=
  casedAfterIgnorable before && !casedAfterIgnorable after

/-- The lowercase form of one character in its context. -/
def lowerInContext (before : List Char) (c : Char) (after : List Char) : List Char :=
  if c = 'Σ' then [if endsWord before after then 'ς' else 'σ']
  else if c = 'İ' then ['i', Char.ofNat 0x307]
  else [lowerChar c]

/-- Lowercases a character list; `before` holds the characters already passed, nearest first. -/
def lowerChars (before : List Char) : List Char → List Char
  | [] => []
  | c :: rest => lowerInContext before c rest ++ lowerChars (c :: before) rest

/-- **The Unicode lowercase form of a text.** -/
def lowercase (s : String) : String := String.ofList (lowerChars [] s.toList)

end Text

end ChatGateway
