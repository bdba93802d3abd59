/-!
# Transliteration to ASCII

A table of `Spellings` gives the ASCII spelling of a character outside ASCII, which may be empty or
several characters long.  `transliterate` spells a whole text by a table; a character without a
spelling becomes a hyphen.

The customary table spells most of Unicode.  `asciiForm?` is a part of it: most small letters of
Latin, Greek and Cyrillic, some signs, and a few characters of other scripts.
-/

namespace LiveForm
namespace Text

/-- Spellings of the characters outside ASCII, for those that have one. -/
abbrev Spellings := Char → Option String

/-- Some code points outside ASCII with their customary spelling: a part of the customary table, not
all of it. -/
def asciiForms : List (Nat × String) := [
  (0xA0, " "), (0xA1, "!"), (0xA2, "C/"), (0xA3, "PS"), (0xA4, "$?"), (0xA5, "Y="), (0xA6, "|"),
  (0xA7, "SS"), (0xA8, "\""), (0xA9, "(c)"), (0xAA, "a"), (0xAB, "<<"), (0xAC, "!"), (0xAD, ""),
  (0xAE, "(r)"), (0xAF, "-"), (0xB0, "deg"), (0xB1, "+-"), (0xB2, "2"), (0xB3, "3"), (0xB4, "'"),
  (0xB5, "u"), (0xB6, "P"), (0xB7, "*"), (0xB8, ","), (0xB9, "1"), (0xBA, "o"), (0xBB, ">>"),
  (0xBC, "1/4"), (0xBD, "1/2"), (0xBE, "3/4"), (0xBF, "?"), (0xD7, "x"), (0xDF, "ss"), (0xE0, "a"),
  (0xE1, "a"), (0xE2, "a"), (0xE3, "a"), (0xE4, "a"), (0xE5, "a"), (0xE6, "ae"), (0xE7, "c"),
  (0xE8, "e"), (0xE9, "e"), (0xEA, "e"), (0xEB, "e"), (0xEC, "i"), (0xED, "i"), (0xEE, "i"),
  (0xEF, "i"), (0xF0, "d"), (0xF1, "n"), (0xF2, "o"), (0xF3, "o"), (0xF4, "o"), (0xF5, "o"),
  (0xF6, "o"), (0xF7, "/"), (0xF8, "o"), (0xF9, "u"), (0xFA, "u"), (0xFB, "u"), (0xFC, "u"),
  (0xFD, "y"), (0xFE, "th"), (0xFF, "y"), (0x101, "a"), (0x103, "a"), (0x105, "a"), (0x107, "c"),
  (0x109, "c"), (0x10B, "c"), (0x10D, "c"), (0x10F, "d"), (0x111, "d"), (0x113, "e"), (0x115, "e"),
  (0x117, "e"), (0x119, "e"), (0x11B, "e"), (0x11D, "g"), (0x11F, "g"), (0x121, "g"), (0x123, "g"),
  (0x125, "h"), (0x127, "h"), (0x129, "i"), (0x12B, "i"), (0x12D, "i"), (0x12F, "i"), (0x131, "i"),
  (0x133, "ij"), (0x135, "j"), (0x137, "k"), (0x138, "k"), (0x13A, "l"), (0x13C, "l"),
  (0x13E, "l"), (0x140, "l"), (0x142, "l"), (0x144, "n"), (0x146, "n"), (0x148, "n"),
  (0x149, "'n"), (0x14B, "NG"), (0x14D, "o"), (0x14F, "o"), (0x151, "o"), (0x153, "oe"),
  (0x155, "r"), (0x157, "r"), (0x159, "r"), (0x15B, "s"), (0x15D, "s"), (0x15F, "s"), (0x161, "s"),
  (0x163, "t"), (0x165, "t"), (0x167, "t"), (0x169, "u"), (0x16B, "u"), (0x16D, "u"), (0x16F, "u"),
  (0x171, "u"), (0x173, "u"), (0x175, "w"), (0x177, "y"), (0x17A, "z"), (0x17C, "z"), (0x17E, "z"),
  (0x17F, "s"), (0x1C6, "dz"), (0x301, ""), (0x307, ""), (0x30A, ""), (0x387, ";"), (0x390, "I"),
  (0x3AC, "a"), (0x3AD, "e"), (0x3AE, "e"), (0x3AF, "i"), (0x3B0, "u"), (0x3B1, "a"), (0x3B2, "b"),
  (0x3B3, "g"), (0x3B4, "d"), (0x3B5, "e"), (0x3B6, "z"), (0x3B7, "e"), (0x3B8, "th"),
  (0x3B9, "i"), (0x3BA, "k"), (0x3BB, "l"), (0x3BC, "m"), (0x3BD, "n"), (0x3BE, "x"), (0x3BF, "o"),
  (0x3C0, "p"), (0x3C1, "r"), (0x3C2, "s"), (0x3C3, "s"), (0x3C4, "t"), (0x3C5, "u"),
  (0x3C6, "ph"), (0x3C7, "kh"), (0x3C8, "ps"), (0x3C9, "o"), (0x3CA, "i"), (0x3CB, "u"),
  (0x3CC, "o"), (0x3CD, "u"), (0x3CE, "o"), (0x430, "a"), (0x431, "b"), (0x432, "v"), (0x433, "g"),
  (0x434, "d"), (0x435, "e"), (0x436, "zh"), (0x437, "z"), (0x438, "i"), (0x439, "i"),
  (0x43A, "k"), (0x43B, "l"), (0x43C, "m"), (0x43D, "n"), (0x43E, "o"), (0x43F, "p"), (0x440, "r"),
  (0x441, "s"), (0x442, "t"), (0x443, "u"), (0x444, "f"), (0x445, "kh"), (0x446, "ts"),
  (0x447, "ch"), (0x448, "sh"), (0x449, "shch"), (0x44A, "'"), (0x44B, "y"), (0x44C, "'"),
  (0x44D, "e"), (0x44E, "iu"), (0x44F, "ia"), (0x450, "ie"), (0x451, "io"), (0x452, "dj"),
  (0x453, "gj"), (0x454, "ie"), (0x455, "dz"), (0x456, "i"), (0x457, "yi"), (0x458, "j"),
  (0x459, "lj"), (0x45A, "nj"), (0x45B, "tsh"), (0x45C, "kj"), (0x45D, "i"), (0x45E, "u"),
  (0x45F, "dzh"), (0x5D5, "v"), (0x5DC, "l"), (0x5DD, "m"), (0x5E9, "sh"), (0x627, ""),
  (0x628, "b"), (0x62D, "H"), (0x631, "r"), (0x645, "m"), (0x661, "1"), (0x662, "2"), (0x663, "3"),
  (0x926, "d"), (0x928, "n"), (0x939, "h"), (0x93F, "i"), (0x940, "ii"), (0x94D, ""),
  (0x1EA1, "a"), (0x1EBF, "e"), (0x1EC7, "e"), (0x1EEB, "u"), (0x200B, " "), (0x2013, "-"),
  (0x2014, "--"), (0x2018, "'"), (0x2019, "'"), (0x201C, "\""), (0x201D, "\""), (0x2026, "..."),
  (0x2028, "\n"), (0x20AC, "EUR"), (0x2116, "No"), (0x2122, "tm"), (0x217B, "xii"), (0x2192, "-"),
  (0x2605, "*"), (0x2764, "heart"), (0x3000, " "), (0x304C, "ga"), (0x306A, "na"), (0x3072, "hi"),
  (0x3089, "ra"), (0x30AB, "ka"), (0x30BF, "ta"), (0x30CA, "na"), (0x4EAC, "Jing "),
  (0x5317, "Bei "), (0x65E5, "Ri "), (0x672C, "Ben "), (0x6771, "Dong "), (0x8A9E, "Yu "),
  (0xAD6D, "gug"), (0xC5B4, "eo"), (0xD55C, "han"), (0xFB01, "fi"),
  (0xFDFA, "\x7bSalla Llahu Alayhi WaSallam\x7d"), (0xFEFF, ""), (0xFF11, "1"), (0xFF12, "2"),
  (0xFF13, "3"), (0xFF41, "a"), (0xFF42, "b"), (0xFF43, "c"), (0x1F600, "grinning ")]

/-- The spellings of `asciiForms`; the controls up to U+009F have an empty one.  A character that
this part of the customary table leaves out has no spelling, so that it becomes a hyphen. -/
def asciiForm? : Spellings := fun c =>
  if 0x80 ≤ c.toNat ∧ c.toNat ≤ 0x9F then some ""
  else asciiForms.lookup c.toNat

/-- How one character is spelled in ASCII. -/
def spell (table : Spellings) (c : Char) : List Char :=
  if c.toNat < 128 then [c]
  else match table c with
    | some s => s.toList
    | none => ['-']

/-- A text spelled in ASCII. -/
def transliterate (table : Spellings) (cs : List Char) : List Char :=
  cs.flatMap (spell table)

/-- A character of ASCII is its own spelling. -/
theorem spell_of_ascii {c : Char} (table : Spellings) (h : c.toNat < 128) : spell table c = [c] :=
  if_pos h

/-- A text in ASCII is its own spelling. -/
theorem transliterate_of_ascii {cs : List Char} (table : Spellings)
    (h : ∀ c ∈ cs, c.toNat < 128) : transliterate table cs = cs := by
  induction cs with
  | nil => rfl
  | cons c cs ih =>
    rw [List.forall_mem_cons] at h
    rw [transliterate, List.flatMap_cons, spell_of_ascii table h.1]
    exact congrArg (c :: ·) (ih h.2)

end Text
end LiveForm
