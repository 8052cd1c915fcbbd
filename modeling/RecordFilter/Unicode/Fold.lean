import RecordFilter.Unicode.CaseContext
import RecordFilter.Unicode.CombiningClass
import RecordFilter.Unicode.DecompositionTable
import RecordFilter.Unicode.LowercaseRuns

/-!
# RecordFilter.Unicode.Fold

The form in which texts are compared: lower case, decomposed, without the combining diacritical
marks. "São" and "SAO" fold to the same text.

* `lowercase`: every character maps on its own, except the Greek capital sigma, which becomes a final sigma
  where it ends a word.
* `decompose`: every character is replaced by its full canonical decomposition, then each run of marks is
  put into the order of their combining classes, equal classes keeping their order.

Lower-casing is that of Unicode 17, decomposing that of Unicode 18. The later version adds marks, which have
combining classes, and no character that decomposes: the table of decompositions is the one of Unicode 17
still, and only the table of classes has grown.
-/

namespace RecordFilter
namespace Unicode

/-! ## Lower case -/

def CaseRun.contains (r : CaseRun) (n : Nat) : Bool :=
  r.first ≤ n && n ≤ r.last && (n - r.first) % r.stride == 0

def lowercaseChar (c : Char) : List Char :=
  if c = '\u0130' then ['i', '\u0307']
  else
    match lowercaseRuns.find? fun r => r.contains c.toNat with
    | some r => [Char.ofNat (c.toNat + r.shift).toNat]
    | none => [c]

/-- The first character that is not ignorable for case, if there is one, is cased. -/
def meetsCased (text : List Char) : Bool :=
  match text.dropWhile isCaseIgnorable with
  | c :: _ => isCased c
  | [] => false

/-- `before` is the text up to the sigma, nearest character first. -/
def sigma (before after : List Char) : Char :=
  if meetsCased before && !meetsCased after then 'ς' else 'σ'

def lowercaseFrom (before : List Char) : List Char → List Char
  | [] => []
  | c :: rest =>
    (if c = 'Σ' then [sigma before rest] else lowercaseChar c) ++ lowercaseFrom (c :: before) rest

def lowercase (text : List Char) : List Char := lowercaseFrom [] text

/-! ## Hangul syllables -/

def syllableBase : Nat := 0xAC00
def leadBase : Nat := 0x1100
def vowelBase : Nat := 0x1161
def tailBase : Nat := 0x11A7
def vowelCount : Nat := 21
def tailCount : Nat := 28
def syllableCount : Nat := 11172

/-- Lead, vowel and, unless the syllable is open, tail. -/
def decomposeSyllable (n : Nat) : List Nat :=
  let index := n - syllableBase
  let lead := leadBase + index / (vowelCount * tailCount)
  let vowel := vowelBase + index % (vowelCount * tailCount) / tailCount
  let tail := index % tailCount
  if tail = 0 then [lead, vowel] else [lead, vowel, tailBase + tail]

/-! ## Decomposition -/

def decompositionPages : List (List (Nat × List Nat)) :=
  [latinDecompositions, greekCyrillicDecompositions, southernDecompositions,
    vietnameseDecompositions, polytonicDecompositions, symbolDecompositions]

def singleton? (n : Nat) : Option Nat :=
  singletonRuns.findSome? fun (first, targets) =>
    if first ≤ n then targets[n - first]? else none

/-- The full canonical decomposition of one code point. -/
def decomposeCode (n : Nat) : List Nat :=
  if n < 0xC0 then [n]
  else if syllableBase ≤ n && n < syllableBase + syllableCount then decomposeSyllable n
  else
    match decompositionPages.findSome? fun page => page.lookup n with
    | some codes => codes
    | none => [(singleton? n).getD n]

def decomposeChar (c : Char) : List Char := (decomposeCode c.toNat).map Char.ofNat

/-! ## Order of marks -/

/-- Puts `c` in front of a text in canonical order, past the marks of a smaller class than its own. -/
def insertMark (c : Char) : List Char → List Char
  | [] => [c]
  | d :: rest =>
    if combiningClass d ≠ 0 ∧ combiningClass d < combiningClass c then d :: insertMark c rest
    else c :: d :: rest

def orderMarks (text : List Char) : List Char := text.foldr insertMark []

def decompose (text : List Char) : List Char := orderMarks (text.flatMap decomposeChar)

/-! ## Folding -/

def isDiacritic (c : Char) : Bool := 0x300 ≤ c.toNat && c.toNat ≤ 0x36F

def fold (text : List Char) : List Char :=
  (decompose (lowercase text)).filter fun c => !isDiacritic c

def foldText (text : String) : String := String.ofList (fold text.toList)

theorem not_isDiacritic_of_mem_fold {text : List Char} {c : Char} (h : c ∈ fold text) :
    isDiacritic c = false := by
  simpa [fold] using (List.mem_filter.1 h).2

end Unicode
end RecordFilter
