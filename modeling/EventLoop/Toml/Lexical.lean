import EventLoop.Text.Numeral

/-!
# The lexical level of TOML

Blanks, comments, ends of lines, strings and keys. Each reader takes what it reads off the start of a text
and gives the rest; none means that the text does not start so.
-/

namespace EventLoop.Toml

/-! ## Characters -/

/-- Separates words on one line. -/
def isGap (c : Char) : Bool := c = ' ' || c = '\t'

/-- May stand in a comment or, unless it has a meaning there, in a string: no control character but the
tab. -/
def isPlain (c : Char) : Bool := c = '\t' || (0x20 ≤ c.toNat && c.toNat ≠ 0x7F)

/-- May stand in a key without quotes. -/
def isBare (c : Char) : Bool := c.isAlphanum || c = '-' || c = '_'

/-! ## Space -/

/-- The text after the blanks at its start. -/
def skipGaps (s : List Char) : List Char := s.dropWhile isGap

/-- The rest after the end of a line. -/
def newline? : List Char → Option (List Char)
  | '\n' :: rest => some rest
  | '\r' :: '\n' :: rest => some rest
  | _ => none

/-- The text after the comment at its start, if there is one. -/
def skipComment : List Char → List Char
  | '#' :: rest => rest.dropWhile isPlain
  | s => s

/-- The rest after what may follow a statement: blanks, a comment, the end of the line or of the text. -/
def endOfLine? (s : List Char) : Option (List Char) :=
  match skipComment (skipGaps s) with
  | [] => some []
  | s => newline? s

theorem length_dropWhile_le (p : Char → Bool) (s : List Char) : (s.dropWhile p).length ≤ s.length :=
  (List.dropWhile_sublist p).length_le

/-- The text after blanks, ends of lines and comments. -/
def skipSpace : List Char → List Char
  | '\n' :: rest => skipSpace rest
  | '\r' :: '\n' :: rest => skipSpace rest
  | '#' :: rest => skipSpace (rest.dropWhile isPlain)
  | c :: rest => if isGap c then skipSpace rest else c :: rest
  | [] => []
termination_by s => s.length
decreasing_by
  all_goals simp only [List.length_cons]
  all_goals try omega
  exact Nat.lt_succ_of_le (length_dropWhile_le _ _)

/-! ## Strings -/

/-- The character with a code point of `count` digits in base sixteen. -/
def codePoint? (count : Nat) (s : List Char) : Option (Char × List Char) := do
  let ds := s.take count
  let n ← Numeral.ofDigits? 16 ds
  if ds.length = count ∧ n.isValidChar then some (Char.ofNat n, s.drop count) else none

/-- The character that stands after a backslash. -/
def escape? : List Char → Option (Char × List Char)
  | 'b' :: rest => some ('\x08', rest)
  | 't' :: rest => some ('\t', rest)
  | 'n' :: rest => some ('\n', rest)
  | 'f' :: rest => some ('\x0c', rest)
  | 'r' :: rest => some ('\r', rest)
  | '"' :: rest => some ('"', rest)
  | '\\' :: rest => some ('\\', rest)
  | 'u' :: rest => codePoint? 4 rest
  | 'U' :: rest => codePoint? 8 rest
  | _ => none

theorem length_of_codePoint? {count : Nat} {s r : List Char} {c : Char}
    (h : codePoint? count s = some (c, r)) : r.length ≤ s.length := by
  obtain ⟨n, -, h⟩ := Option.bind_eq_some_iff.mp h
  split at h
  · simp only [Option.some.injEq, Prod.mk.injEq] at h
    rw [← h.2, List.length_drop]
    omega
  · simp at h

theorem length_of_escape? {s r : List Char} {c : Char} (h : escape? s = some (c, r)) :
    r.length < s.length := by
  unfold escape? at h
  split at h
  case h_8 => exact Nat.lt_succ_of_le (length_of_codePoint? h)
  case h_9 => exact Nat.lt_succ_of_le (length_of_codePoint? h)
  case h_10 => simp at h
  all_goals
    simp only [Option.some.injEq, Prod.mk.injEq] at h
    rw [← h.2]
    simp

/-- The text of a string in double quotes, from after its opening quote. -/
def basic? : List Char → Option (List Char × List Char)
  | [] => none
  | '"' :: rest => some ([], rest)
  | '\\' :: rest =>
    match _h : escape? rest with
    | some (c, rest') => (basic? rest').map fun (cs, rest) => (c :: cs, rest)
    | none => none
  | c :: rest => if isPlain c then (basic? rest).map fun (cs, rest) => (c :: cs, rest) else none
termination_by s => s.length
decreasing_by
  · have := length_of_escape? _h
    simp only [List.length_cons]
    omega
  · simp

/-- The text of a string in single quotes, from after its opening quote. -/
def literal? : List Char → Option (List Char × List Char)
  | [] => none
  | '\'' :: rest => some ([], rest)
  | c :: rest => if isPlain c then (literal? rest).map fun (cs, rest) => (c :: cs, rest) else none

/-- The text after blanks and ends of lines. -/
def skipLines : List Char → List Char
  | '\n' :: rest => skipLines rest
  | '\r' :: '\n' :: rest => skipLines rest
  | c :: rest => if isGap c then skipLines rest else c :: rest
  | [] => []

theorem length_skipLines_le (s : List Char) : (skipLines s).length ≤ s.length := by
  fun_induction skipLines s <;> simp_all <;> omega

/-- The quotes at the end of a long string that belong to its text: after the closing three, up to two
more may follow, and the last three of all close it. -/
def closing (quote : Char) : List Char → List Char × List Char
  | a :: b :: rest =>
    if a = quote then if b = quote then ([quote, quote], rest) else ([quote], b :: rest)
    else ([], a :: b :: rest)
  | a :: rest => if a = quote then ([quote], rest) else ([], a :: rest)
  | [] => ([], [])

/-- The text of a long string in double quotes, from after its opening quotes. A backslash at the end of
a line takes the end of the line and all space after it away. -/
def longBasic? : List Char → Option (List Char × List Char)
  | [] => none
  | '"' :: '"' :: '"' :: rest => some (closing '"' rest)
  | '\n' :: rest => (longBasic? rest).map fun (cs, rest) => ('\n' :: cs, rest)
  | '\r' :: '\n' :: rest => (longBasic? rest).map fun (cs, rest) => ('\n' :: cs, rest)
  | '\\' :: rest =>
    match newline? (skipGaps rest) with
    | some _ => longBasic? (skipLines rest)
    | none =>
      match _h : escape? rest with
      | some (c, rest') => (longBasic? rest').map fun (cs, rest) => (c :: cs, rest)
      | none => none
  | c :: rest => if isPlain c then (longBasic? rest).map fun (cs, rest) => (c :: cs, rest) else none
termination_by s => s.length
decreasing_by
  · simp
  · simp only [List.length_cons]; omega
  · have := length_skipLines_le rest
    simp only [List.length_cons]
    omega
  · have := length_of_escape? _h
    simp only [List.length_cons]
    omega
  · simp

/-- The text of a long string in single quotes, from after its opening quotes. -/
def longLiteral? : List Char → Option (List Char × List Char)
  | [] => none
  | '\'' :: '\'' :: '\'' :: rest => some (closing '\'' rest)
  | '\n' :: rest => (longLiteral? rest).map fun (cs, rest) => ('\n' :: cs, rest)
  | '\r' :: '\n' :: rest => (longLiteral? rest).map fun (cs, rest) => ('\n' :: cs, rest)
  | c :: rest => if isPlain c then (longLiteral? rest).map fun (cs, rest) => (c :: cs, rest) else none

/-- The text without the end of a line at its start. -/
def dropNewline (s : List Char) : List Char := (newline? s).getD s

/-- A string of any of the four forms at the start of a text. -/
def string? : List Char → Option (List Char × List Char)
  | '"' :: '"' :: '"' :: rest => longBasic? (dropNewline rest)
  | '"' :: rest => basic? rest
  | '\'' :: '\'' :: '\'' :: rest => longLiteral? (dropNewline rest)
  | '\'' :: rest => literal? rest
  | _ => none

/-! ## Keys -/

/-- One part of a key at the start of a text. -/
def keyPart? : List Char → Option (String × List Char)
  | '"' :: rest => (basic? rest).map fun (cs, rest) => (String.ofList cs, rest)
  | '\'' :: rest => (literal? rest).map fun (cs, rest) => (String.ofList cs, rest)
  | s =>
    let name := s.takeWhile isBare
    if name.isEmpty then none else some (String.ofList name, s.drop name.length)

/-- The most parts that a key may have. -/
def keyParts : Nat := 79

/-- A key of at most `count` parts with points between them, and the blanks around it. -/
def keyOf? : Nat → List Char → Option (List String × List Char)
  | 0, _ => none
  | count + 1, s => do
    let (part, rest) ← keyPart? (skipGaps s)
    match skipGaps rest with
    | '.' :: rest => (keyOf? count rest).map fun (parts, rest) => (part :: parts, rest)
    | rest => some ([part], rest)

/-- A key at the start of a text. -/
def key? (s : List Char) : Option (List String × List Char) := keyOf? keyParts s

end EventLoop.Toml
