/-! Searching a text for another one: prefixes, first occurrences, replacement. Each function
is stated on character lists and lifted to strings. -/
namespace MutationTesting.Text

/-- What follows `lead` in the text, if the text starts with it. -/
def afterLead? : (lead text : List Char) → Option (List Char)
  | [], text => some text
  | _ :: _, [] => none
  | a :: lead, c :: text => if a = c then afterLead? lead text else none

theorem afterLead?_append (lead rest : List Char) : afterLead? lead (lead ++ rest) = some rest := by
  induction lead with
  | nil => rfl
  | cons a lead ih => simp [afterLead?, ih]

theorem eq_append_of_afterLead? {lead text rest : List Char}
    (h : afterLead? lead text = some rest) :
    text = lead ++ rest := by
  induction lead generalizing text with
  | nil => simpa [afterLead?] using h
  | cons a lead ih =>
    cases text with
    | nil => simp [afterLead?] at h
    | cons c text =>
      by_cases same : a = c
      · simp only [afterLead?, same, if_true] at h
        simp [same, ih h]
      · simp [afterLead?, same] at h

theorem length_of_afterLead? {lead text rest : List Char} (h : afterLead? lead text = some rest) :
    text.length = lead.length + rest.length := by
  rw [eq_append_of_afterLead? h, List.length_append]

/-- The text around the first occurrence of `mark`: what stands before it and what after. -/
def around? (mark : List Char) : List Char → Option (List Char × List Char)
  | [] => if mark = [] then some ([], []) else none
  | c :: text =>
    match afterLead? mark (c :: text) with
    | some rest => some ([], rest)
    | none => (around? mark text).map fun (before, after) => (c :: before, after)

/-- The text with every occurrence of the text `mark`, found from left to right and without
overlaps, replaced by `new`. An empty `mark` occurs nowhere. -/
def substitute (mark new : List Char) (text : List Char) : List Char :=
  match text with
  | [] => []
  | c :: rest =>
    if mark = [] then c :: rest
    else
      match _found : afterLead? mark (c :: rest) with
      | some after => new ++ substitute mark new after
      | none => c :: substitute mark new rest
  termination_by text.length
  decreasing_by
    · have := length_of_afterLead? _found
      have : 0 < mark.length := List.length_pos_iff.mpr ‹_›
      simp only [List.length_cons] at *
      omega
    · simp

/-- What follows `lead` in `s`, if `s` starts with it. -/
def stripLead? (lead s : String) : Option String :=
  (afterLead? lead.toList s.toList).map String.ofList

def startsWith (lead s : String) : Bool :=
  (afterLead? lead.toList s.toList).isSome

def endsWith (tail s : String) : Bool :=
  (afterLead? tail.toList.reverse s.toList.reverse).isSome

def contains (mark s : String) : Bool :=
  (around? mark.toList s.toList).isSome

/-- What stands before and after the first occurrence of `mark` in `s`. -/
def splitOnce? (mark s : String) : Option (String × String) :=
  (around? mark.toList s.toList).map fun (before, after) =>
    (String.ofList before, String.ofList after)

def replace (mark new s : String) : String :=
  String.ofList (substitute mark.toList new.toList s.toList)

end MutationTesting.Text
