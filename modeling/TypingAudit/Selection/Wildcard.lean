/-!
Wildcard patterns over whole names. A star stands for any run of characters, slashes included, a question
mark for any one character, and a set in brackets for one character in it or, after an exclamation mark, not
in it. A bracket that is never closed stands for itself.
-/

namespace TypingAudit.Selection

inductive Piece where
  | exactly (c : Char)
  | anyOne
  | anyRun
  | oneOf (ranges : List (Char × Char))
  | noneOf (ranges : List (Char × Char))
deriving DecidableEq, Repr

inductive SetItem where
  | char (c : Char)
  | upTo
deriving DecidableEq, Repr

namespace Wildcard

def leaveOut (c : Char) (text : List Char) : List Char := if text.head? = some c then text.tail else text

theorem length_leaveOut_le (c : Char) (text : List Char) : (leaveOut c text).length ≤ text.length := by
  unfold leaveOut
  split <;> simp

/-- The body of a set and what follows its closing bracket. A bracket that comes first, also after an
exclamation mark, does not close the set. -/
def setBody (text : List Char) : Option (List Char × List Char) :=
  match (leaveOut ']' (leaveOut '!' text)).dropWhile (· != ']') with
  | [] => none
  | _ :: rest => some (text.take (text.length - rest.length - 1), rest)

theorem setBody_rest_lt {text body rest : List Char} (h : setBody text = some (body, rest)) :
    rest.length < text.length := by
  simp only [setBody] at h
  split at h
  · simp at h
  · rename_i after shape
    have bound := (List.dropWhile_sublist (· != ']') (l := leaveOut ']' (leaveOut '!' text))).length_le
    have outer := length_leaveOut_le ']' (leaveOut '!' text)
    have inner := length_leaveOut_le '!' text
    simp only [Option.some.injEq, Prod.mk.injEq] at h
    rw [shape, List.length_cons] at bound
    rw [← h.2]
    omega

/-- Cuts the body of a set at its range hyphens. The first `skip` characters hold none, and neither do the
two that follow a range hyphen. -/
def chunks (skip : Nat) : List Char → List (List Char)
  | [] => [[]]
  | c :: rest =>
    if skip = 0 ∧ c = '-' then [] :: chunks 2 rest
    else
      match chunks (skip - 1) rest with
      | [] => [[c]]
      | first :: others => (c :: first) :: others

def keepLastHyphen : List (List Char) → List (List Char)
  | [] => []
  | [chunk] => [chunk]
  | [chunk, []] => [chunk ++ ['-']]
  | chunk :: rest => chunk :: keepLastHyphen rest

/-- Takes out the ranges that run backwards, the last one first. -/
def dropReversed : List (List Char) → List (List Char)
  | [] => []
  | chunk :: rest =>
    match dropReversed rest with
    | [] => [chunk]
    | next :: others =>
      match chunk.getLast?, next.head? with
      | some low, some high =>
        if high < low then (chunk.dropLast ++ next.tail) :: others else chunk :: next :: others
      | _, _ => chunk :: next :: others

def joinChunks : List (List Char) → List SetItem
  | [] => []
  | [chunk] => chunk.map .char
  | chunk :: rest => chunk.map .char ++ .upTo :: joinChunks rest

def ranges : List SetItem → List (Char × Char)
  | [] => []
  | .char low :: .upTo :: .char high :: rest => (low, high) :: ranges rest
  | .char c :: rest => (c, c) :: ranges rest
  | .upTo :: rest => ('-', '-') :: ranges rest

def setPiece (body : List Char) : Piece :=
  let cut := chunks (if body.head? = some '!' then 2 else 1) body
  match joinChunks (dropReversed (keepLastHyphen cut)) with
  | .char '!' :: items => .noneOf (ranges items)
  | items => .oneOf (ranges items)

def pieces : List Char → List Piece
  | [] => []
  | '*' :: rest => .anyRun :: pieces rest
  | '?' :: rest => .anyOne :: pieces rest
  | '[' :: rest =>
    match _closed : setBody rest with
    | none => .exactly '[' :: pieces rest
    | some (body, after) => setPiece body :: pieces after
  | c :: rest => .exactly c :: pieces rest
termination_by text => text.length
decreasing_by
  all_goals try have shorter := setBody_rest_lt _closed
  all_goals simp only [List.length_cons]
  all_goals omega

def inRanges (rs : List (Char × Char)) (c : Char) : Bool :=
  rs.any fun r => decide (r.1 ≤ c) && decide (c ≤ r.2)

def takes (c : Char) : Piece → Bool
  | .exactly d => c == d
  | .anyOne => true
  | .anyRun => false
  | .oneOf rs => inRanges rs c
  | .noneOf rs => !inRanges rs c

def anyLater : List Bool → List Bool
  | [] => []
  | b :: rest => (b || (anyLater rest).headD false) :: anyLater rest

/-- From the row that tells for each end part of a text whether it is matched by later pieces, the row for
these pieces with one more in front. -/
def before (text : List Char) (piece : Piece) (row : List Bool) : List Bool :=
  match piece with
  | .anyRun => anyLater row
  | piece => List.zipWith (fun c matched => takes c piece && matched) text row.tail ++ [false]

def covers (pattern name : String) : Bool :=
  let text := name.toList
  let last := text.map (fun _ => false) ++ [true]
  ((pieces pattern.toList).foldr (before text) last).headD false

end Wildcard

end TypingAudit.Selection
