/-
# Graphemes

What a reader takes for one character may be several: a letter and its accents, the parts of a
syllable, a flag, a family of faces.  On a screen a text is drawn cluster by cluster, each in cells
of its own.  What the clusters of a text are and how many cells each of them takes is left to a
`Layout`, of which nothing is assumed; a statement that needs more says so.

`graphemes` cuts a text into clusters by looking at the kinds of neighbouring characters; what has
to be remembered of the characters further back fits into a small state.  Nothing of the text is
lost in it.
-/
import LineSearch.Text.Basic
import LineSearch.Text.Category

namespace LineSearch.Text

/-! ## Layouts -/

/-- A layout. -/
class Layout where
  /-- The clusters that a text is cut into. -/
  clusters : Text → List Text
  /-- The number of cells of a cluster. -/
  width : Text → Nat

/-- The clusters of a text that can be drawn: those without control characters. -/
def drawnClusters [Layout] (t : Text) : List Text :=
  (Layout.clusters t).filter fun cluster => !cluster.any (Category.cc.has ·)

/-! ## Clusters by the kinds of characters -/

/-- What a character does at the boundary of a cluster. -/
inductive BreakKind where
  | carriageReturn | lineFeed | control | extend | joiner | spacing | prepend
  | regionalIndicator
  | hangulLead | hangulVowel | hangulTrail | hangulOpen | hangulClosed
  | other
  deriving DecidableEq, Repr

/-- The characters that are pictures, or are kept free for pictures. -/
def extendedPictographic : RangeTable where
  ranges :=
   [(0x00A9, 0x00A9), (0x00AE, 0x00AE), (0x203C, 0x203C), (0x2049, 0x2049), (0x2122, 0x2122),
    (0x2139, 0x2139), (0x2194, 0x2199), (0x21A9, 0x21AA), (0x231A, 0x231B), (0x2328, 0x2328),
    (0x23CF, 0x23CF), (0x23E9, 0x23F3), (0x23F8, 0x23FA), (0x24C2, 0x24C2), (0x25AA, 0x25AB),
    (0x25B6, 0x25B6), (0x25C0, 0x25C0), (0x25FB, 0x25FE), (0x2600, 0x2604), (0x260E, 0x260E),
    (0x2611, 0x2611), (0x2614, 0x2615), (0x2618, 0x2618), (0x261D, 0x261D), (0x2620, 0x2620),
    (0x2622, 0x2623), (0x2626, 0x2626), (0x262A, 0x262A), (0x262E, 0x262F), (0x2638, 0x263A),
    (0x2640, 0x2640), (0x2642, 0x2642), (0x2648, 0x2653), (0x265F, 0x2660), (0x2663, 0x2663),
    (0x2665, 0x2666), (0x2668, 0x2668), (0x267B, 0x267B), (0x267E, 0x267F), (0x2692, 0x2697),
    (0x2699, 0x2699), (0x269B, 0x269C), (0x26A0, 0x26A1), (0x26A7, 0x26A7), (0x26AA, 0x26AB),
    (0x26B0, 0x26B1), (0x26BD, 0x26BE), (0x26C4, 0x26C5), (0x26C8, 0x26C8), (0x26CE, 0x26CF),
    (0x26D1, 0x26D1), (0x26D3, 0x26D4), (0x26E9, 0x26EA), (0x26F0, 0x26F5), (0x26F7, 0x26FA),
    (0x26FD, 0x26FD), (0x2702, 0x2702), (0x2705, 0x2705), (0x2708, 0x270D), (0x270F, 0x270F),
    (0x2712, 0x2712), (0x2714, 0x2714), (0x2716, 0x2716), (0x271D, 0x271D), (0x2721, 0x2721),
    (0x2728, 0x2728), (0x2733, 0x2734), (0x2744, 0x2744), (0x2747, 0x2747), (0x274C, 0x274C),
    (0x274E, 0x274E), (0x2753, 0x2755), (0x2757, 0x2757), (0x2763, 0x2764), (0x2795, 0x2797),
    (0x27A1, 0x27A1), (0x27B0, 0x27B0), (0x27BF, 0x27BF), (0x2934, 0x2935), (0x2B05, 0x2B07),
    (0x2B1B, 0x2B1C), (0x2B50, 0x2B50), (0x2B55, 0x2B55), (0x3030, 0x3030), (0x303D, 0x303D),
    (0x3297, 0x3297), (0x3299, 0x3299), (0x1F004, 0x1F004), (0x1F02C, 0x1F02F),
    (0x1F094, 0x1F09F), (0x1F0AF, 0x1F0B0), (0x1F0C0, 0x1F0C0), (0x1F0CF, 0x1F0D0),
    (0x1F0F6, 0x1F0FF), (0x1F170, 0x1F171), (0x1F17E, 0x1F17F), (0x1F18E, 0x1F18E),
    (0x1F191, 0x1F19A), (0x1F1AE, 0x1F1E5), (0x1F201, 0x1F20F), (0x1F21A, 0x1F21A),
    (0x1F22F, 0x1F22F), (0x1F232, 0x1F23A), (0x1F23C, 0x1F23F), (0x1F249, 0x1F25F),
    (0x1F266, 0x1F321), (0x1F324, 0x1F393), (0x1F396, 0x1F397), (0x1F399, 0x1F39B),
    (0x1F39E, 0x1F3F0), (0x1F3F3, 0x1F3F5), (0x1F3F7, 0x1F3FA), (0x1F400, 0x1F4FD),
    (0x1F4FF, 0x1F53D), (0x1F549, 0x1F54E), (0x1F550, 0x1F567), (0x1F56F, 0x1F570),
    (0x1F573, 0x1F57A), (0x1F587, 0x1F587), (0x1F58A, 0x1F58D), (0x1F590, 0x1F590),
    (0x1F595, 0x1F596), (0x1F5A4, 0x1F5A5), (0x1F5A8, 0x1F5A8), (0x1F5B1, 0x1F5B2),
    (0x1F5BC, 0x1F5BC), (0x1F5C2, 0x1F5C4), (0x1F5D1, 0x1F5D3), (0x1F5DC, 0x1F5DE),
    (0x1F5E1, 0x1F5E1), (0x1F5E3, 0x1F5E3), (0x1F5E8, 0x1F5E8), (0x1F5EF, 0x1F5EF),
    (0x1F5F3, 0x1F5F3), (0x1F5FA, 0x1F64F), (0x1F680, 0x1F6C5), (0x1F6CB, 0x1F6D2),
    (0x1F6D5, 0x1F6E5), (0x1F6E9, 0x1F6E9), (0x1F6EB, 0x1F6F0), (0x1F6F3, 0x1F6FF),
    (0x1F7DA, 0x1F7FF), (0x1F80C, 0x1F80F), (0x1F848, 0x1F84F), (0x1F85A, 0x1F85F),
    (0x1F888, 0x1F88F), (0x1F8AE, 0x1F8AF), (0x1F8BC, 0x1F8BF), (0x1F8C2, 0x1F8CF),
    (0x1F8D9, 0x1F8FF), (0x1F90C, 0x1F93A), (0x1F93C, 0x1F945), (0x1F947, 0x1F9FF),
    (0x1FA58, 0x1FA5F), (0x1FA6E, 0x1FAFF), (0x1FC00, 0x1FFFD)]

/-- Whether the character is a picture, which a joiner can tie to another one. -/
def isPictographic (c : Char) : Bool := extendedPictographic.contains c

/-- The letters that name a flag, two by two. -/
def isRegionalIndicator (c : Char) : Bool := 0x1F1E6 ≤ c.toNat && c.toNat ≤ 0x1F1FF

/-- The skin tones. -/
def isSkinTone (c : Char) : Bool := 0x1F3FB ≤ c.toNat && c.toNat ≤ 0x1F3FF

/-- Marks with a room of their own that nevertheless begin a cluster. -/
def separateMarks : RangeTable where
  ranges :=
    [(0x102B, 0x102C), (0x1038, 0x1038), (0x1062, 0x1064), (0x1067, 0x106D), (0x1083, 0x1083),
      (0x1087, 0x108C), (0x108F, 0x108F), (0x109A, 0x109C), (0x1A61, 0x1A61), (0x1A63, 0x1A64),
      (0xAA7B, 0xAA7B), (0xAA7D, 0xAA7D), (0x11720, 0x11721)]

/-- Signs and letters that belong to the cluster after them. -/
def prepended : RangeTable where
  ranges :=
    [(0x0600, 0x0605), (0x06DD, 0x06DD), (0x070F, 0x070F), (0x0890, 0x0891), (0x08E2, 0x08E2),
      (0x0D4E, 0x0D4E), (0x110BD, 0x110BD), (0x110CD, 0x110CD), (0x111C2, 0x111C3),
      (0x113D1, 0x113D1), (0x1193F, 0x1193F), (0x11941, 0x11941), (0x11A3A, 0x11A3A),
      (0x11A84, 0x11A89), (0x11D46, 0x11D46), (0x11F02, 0x11F02)]

/-- The code points that are kept free for invisible characters. -/
def invisibleReserve : RangeTable where
  ranges :=
    [(0x2065, 0x2065), (0xFFF0, 0xFFF8), (0xE0000, 0xE0000), (0xE0002, 0xE001F),
      (0xE0080, 0xE00FF), (0xE01F0, 0xE0FFF)]

/-- The consonants of the scripts of India in which a stroke ties consonants together. -/
def conjunctConsonant : RangeTable where
  ranges :=
    [(0x0915, 0x0939), (0x0958, 0x095F), (0x0978, 0x097F), (0x0995, 0x09A8), (0x09AA, 0x09B0),
      (0x09B2, 0x09B2), (0x09B6, 0x09B9), (0x09DC, 0x09DD), (0x09DF, 0x09DF), (0x09F0, 0x09F1),
      (0x0A95, 0x0AA8), (0x0AAA, 0x0AB0), (0x0AB2, 0x0AB3), (0x0AB5, 0x0AB9), (0x0AF9, 0x0AF9),
      (0x0B15, 0x0B28), (0x0B2A, 0x0B30), (0x0B32, 0x0B33), (0x0B35, 0x0B39), (0x0B5C, 0x0B5D),
      (0x0B5F, 0x0B5F), (0x0B71, 0x0B71), (0x0C15, 0x0C28), (0x0C2A, 0x0C39), (0x0C58, 0x0C5A),
      (0x0D15, 0x0D3A)]

/-- The strokes that tie such consonants together. -/
def isConjunctLinker (c : Char) : Bool :=
  [0x094D, 0x09CD, 0x0ACD, 0x0B4D, 0x0C4D, 0x0D4D].contains c.toNat

/-- The kind of a syllable of Hangul: without a last consonant, or with one. -/
def hangulSyllable (n : Nat) : BreakKind :=
  if (n - 0xAC00) % 28 == 0 then .hangulOpen else .hangulClosed

/-- The kind of a character. -/
def breakKind (c : Char) : BreakKind :=
  let n := c.toNat
  if 0x20 ≤ n && n < 0x7F then .other
  else if c == '\r' then .carriageReturn
  else if c == '\n' then .lineFeed
  else if c == '\u200d' then .joiner
  else if isGraphemeExtend c || isSkinTone c then .extend
  else if prepended.contains c then .prepend
  else if Category.hasAny [.cc, .cf, .zl, .zp] c || invisibleReserve.contains c then .control
  else if isRegionalIndicator c then .regionalIndicator
  else if (0x1100 ≤ n && n ≤ 0x115F) || (0xA960 ≤ n && n ≤ 0xA97C) then .hangulLead
  else if (0x1160 ≤ n && n ≤ 0x11A7) || (0xD7B0 ≤ n && n ≤ 0xD7C6) then .hangulVowel
  else if (0x11A8 ≤ n && n ≤ 0x11FF) || (0xD7CB ≤ n && n ≤ 0xD7FB) then .hangulTrail
  else if 0xAC00 ≤ n && n ≤ 0xD7A3 then hangulSyllable n
  else if n == 0x0E33 || n == 0x0EB3 then .spacing
  else if Category.mc.has c && !separateMarks.contains c then .spacing
  else .other

/-- What is remembered of the cluster so far. -/
structure ClusterState where
  /-- The kind of the last character. -/
  last : BreakKind
  /-- An odd number of regional indicators stands last. -/
  oddIndicators : Bool
  /-- A picture and characters that extend it stand last. -/
  picture : Bool
  /-- The same with a joiner after it. -/
  joinedPicture : Bool
  /-- A conjunct consonant and characters that extend it stand last. -/
  consonant : Bool
  /-- A linker is among those. -/
  linked : Bool

namespace ClusterState

/-- The state after one more character. -/
def next (s : ClusterState) (c : Char) (k : BreakKind) : ClusterState :=
  let extending := k == .extend || k == .joiner
  { last := k
    oddIndicators := k == .regionalIndicator && !s.oddIndicators
    picture := isPictographic c || (s.picture && k == .extend)
    joinedPicture := s.picture && k == .joiner
    consonant := conjunctConsonant.contains c || (s.consonant && extending)
    linked := s.consonant && extending && (s.linked || isConjunctLinker c) }

/-- The state after the first character. -/
def first (c : Char) : ClusterState :=
  let k := breakKind c
  ⟨k, k == .regionalIndicator, isPictographic c, false, conjunctConsonant.contains c, false⟩

/-- Whether a character of kind `k` goes on with the cluster. -/
def continues (s : ClusterState) (c : Char) (k : BreakKind) : Bool :=
  match s.last, k with
  | .carriageReturn, .lineFeed => true
  | .carriageReturn, _ | .lineFeed, _ | .control, _ => false
  | _, .carriageReturn | _, .lineFeed | _, .control => false
  | _, .extend | _, .joiner | _, .spacing => true
  | .prepend, _ => true
  | .hangulLead, .hangulLead | .hangulLead, .hangulVowel | .hangulLead, .hangulOpen
  | .hangulLead, .hangulClosed => true
  | .hangulOpen, .hangulVowel | .hangulOpen, .hangulTrail => true
  | .hangulVowel, .hangulVowel | .hangulVowel, .hangulTrail => true
  | .hangulClosed, .hangulTrail | .hangulTrail, .hangulTrail => true
  | .regionalIndicator, .regionalIndicator => s.oddIndicators
  | _, _ =>
    (s.joinedPicture && isPictographic c) || (s.linked && conjunctConsonant.contains c)

end ClusterState

/-- Cuts a text of which a cluster has begun; `cluster` holds its characters, the last first. -/
def graphemesFrom (s : ClusterState) (cluster : Text) : Text → List Text
  | [] => [cluster.reverse]
  | c :: rest =>
    if s.continues c (breakKind c) then graphemesFrom (s.next c (breakKind c)) (c :: cluster) rest
    else cluster.reverse :: graphemesFrom (.first c) [c] rest

/-- The clusters of a text. -/
def graphemes : Text → List Text
  | [] => []
  | c :: rest => graphemesFrom (.first c) [c] rest

/-- The clusters of a text make up the text. -/
theorem flatten_graphemesFrom (s : ClusterState) (cluster t : Text) :
    (graphemesFrom s cluster t).flatten = cluster.reverse ++ t := by
  induction t generalizing s cluster with
  | nil => simp [graphemesFrom]
  | cons c rest ih =>
    unfold graphemesFrom
    split
    · simp [ih]
    · simp [ih]

theorem flatten_graphemes (t : Text) : (graphemes t).flatten = t := by
  cases t with
  | nil => rfl
  | cons c rest => simp [graphemes, flatten_graphemesFrom]

end LineSearch.Text
