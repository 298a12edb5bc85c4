/-! # Lines of a text

A line ends at a line feed, which is not part of it; one carriage return right before the line feed
is dropped with it. A text that ends in a line feed has no empty last line, and a carriage return
anywhere else stays where it is.
-/

namespace PinnedSessions.Text

/-- The lines of a text. -/
def lines : List Char → List (List Char)
  | [] => []
  | '\n' :: cs => [] :: lines cs
  | '\r' :: '\n' :: cs => [] :: lines cs
  | c :: cs =>
    match lines cs with
    | [] => [[c]]
    | l :: ls => (c :: l) :: ls

@[simp] theorem lines_nil : lines [] = [] := rfl

@[simp] theorem lines_feed (cs : List Char) : lines ('\n' :: cs) = [] :: lines cs := rfl

/-- A character that is neither a line feed nor a carriage return belongs to the first line. -/
theorem lines_cons {c : Char} (hn : c ≠ '\n') (hr : c ≠ '\r') (cs : List Char) :
    lines (c :: cs) = match lines cs with
      | [] => [[c]]
      | l :: ls => (c :: l) :: ls := by
  rw [lines.eq_def]; split <;> simp_all

/-- A text without line feeds and carriage returns is one line. -/
theorem lines_of_plain {cs : List Char} (hne : cs ≠ [])
    (h : ∀ c ∈ cs, c ≠ '\n' ∧ c ≠ '\r') : lines cs = [cs] := by
  induction cs with
  | nil => exact absurd rfl hne
  | cons c cs ih =>
    have hc := h c (by simp)
    rw [lines_cons hc.1 hc.2]
    cases cs with
    | nil => rfl
    | cons d ds => rw [ih (by simp) fun e he => h e (by simp [he])]

end PinnedSessions.Text
