/-!
Texts are lists of characters: what the program reads, compares and prints is taken apart and put
together character by character, and a list has one view only.
-/

namespace XmlCheck

/-- A text, one element for each code point. -/
abbrev Text := List Char

instance coeText : Coe String (List Char) := ⟨String.toList⟩

namespace Text

def ofNat (n : Nat) : Text :=
  Nat.toDigits 10 n

def ofInt : Int → Text
  | .ofNat n => ofNat n
  | .negSucc n => '-' :: ofNat (n + 1)

def repeated (count : Nat) (c : Char) : Text :=
  List.replicate count c

def join (separator : Text) : List Text → Text
  | [] => []
  | [t] => t
  | t :: rest => t ++ separator ++ join separator rest

/-- Walks over a text and replaces occurrences; the counter holds how many characters of the last
occurrence are still to be passed over. -/
def replaceFrom (needle replacement : Text) : Nat → Text → Text
  | _, [] => []
  | skip + 1, _ :: rest => replaceFrom needle replacement skip rest
  | 0, c :: rest =>
    if needle.isPrefixOf (c :: rest) then
      replacement ++ replaceFrom needle replacement (needle.length - 1) rest
    else
      c :: replaceFrom needle replacement 0 rest

/-- Replaces each occurrence of a non-empty `needle`, leftmost first and without overlap. -/
def replaceAll (needle replacement text : Text) : Text :=
  if needle.isEmpty then text else replaceFrom needle replacement 0 text

/-- What follows `start` in a list that begins with it. -/
def after? {α : Type} [BEq α] : (start list : List α) → Option (List α)
  | [], list => some list
  | _ :: _, [] => none
  | a :: start, b :: list => if a == b then after? start list else none

def includes (needle : Text) : Text → Bool
  | [] => needle.isEmpty
  | c :: rest => needle.isPrefixOf (c :: rest) || includes needle rest

def splitOn (separator : Char) : Text → List Text
  | [] => [[]]
  | c :: rest =>
    match splitOn separator rest with
    | [] => [[c]]
    | piece :: pieces => if c = separator then [] :: piece :: pieces else (c :: piece) :: pieces

/-- The text with a line feed for each line end that has a carriage return. -/
def withLineFeeds : Text → Text
  | [] => []
  | '\r' :: '\n' :: rest => '\n' :: withLineFeeds rest
  | c :: rest => (if c = '\r' then '\n' else c) :: withLineFeeds rest

def dropWhileEnd (p : Char → Bool) (text : Text) : Text :=
  (text.reverse.dropWhile p).reverse

def trimWith (p : Char → Bool) (text : Text) : Text :=
  dropWhileEnd p (text.dropWhile p)

def lt : Text → Text → Bool
  | _, [] => false
  | [], _ :: _ => true
  | a :: as, b :: bs => a.toNat < b.toNat || (a == b && lt as bs)

theorem after?_eq_some {α : Type} [BEq α] [LawfulBEq α] {start list rest : List α}
    (h : after? start list = some rest) : list = start ++ rest := by
  induction start generalizing list with
  | nil => simpa [after?] using h
  | cons a start ih =>
    cases list with
    | nil => simp [after?] at h
    | cons b list =>
      by_cases hab : a = b
      · subst hab
        simp only [after?, beq_self_eq_true, if_true] at h
        rw [ih h, List.cons_append]
      · simp [after?, hab] at h

theorem after?_append {α : Type} [BEq α] [LawfulBEq α] (start rest : List α) :
    after? start (start ++ rest) = some rest := by
  induction start with
  | nil => rfl
  | cons a start ih => simp [after?, ih]

theorem takeWhile_append_cons {p : Char → Bool} {run : Text} {c : Char}
    (hrun : ∀ d ∈ run, p d = true) (hc : p c = false) (rest : Text) :
    (run ++ c :: rest).takeWhile p = run := by
  rw [List.takeWhile_append_of_pos hrun, List.takeWhile_cons_of_neg (by simp [hc]),
    List.append_nil]

theorem dropWhile_append_cons {p : Char → Bool} {run : Text} {c : Char}
    (hrun : ∀ d ∈ run, p d = true) (hc : p c = false) (rest : Text) :
    (run ++ c :: rest).dropWhile p = c :: rest := by
  rw [List.dropWhile_append_of_pos hrun, List.dropWhile_cons_of_neg (by simp [hc])]

theorem replaceFrom_nil (needle replacement : Text) (skip : Nat) :
    replaceFrom needle replacement skip [] = [] := by
  cases skip <;> rfl

theorem splitOn_ne_nil (separator : Char) (text : Text) : splitOn separator text ≠ [] := by
  cases text with
  | nil => simp [splitOn]
  | cons c rest =>
    rw [splitOn]
    split
    · simp
    · split <;> simp

end Text

end XmlCheck
