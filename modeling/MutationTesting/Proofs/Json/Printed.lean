import MutationTesting.Json.Reader
import MutationTesting.Proofs.Json.Lexed
/-! What is written for a value is read as this value again. The text consists of the tokens of the
value, and the reader makes the value out of them. -/
namespace MutationTesting.Json

/-- A value that can be written: its numbers are written as numbers, its strings have texts, and its
objects have names that are texts. -/
inductive Printable : Json → Prop where
  | null : Printable .null
  | bool (value : Bool) : Printable (.bool value)
  | number {digits : String} (isNumber : IsNumber digits.toList) : Printable (.number digits)
  | text (s : String) : Printable (.text s)
  | array {items : List Json} (all : ∀ item ∈ items, Printable item) : Printable (.array items)
  | object {fields : List (String × Json)} (all : ∀ field ∈ fields, Printable field.2) :
    Printable (.object fields)

mutual
/-- The tokens of a value. -/
def tokens : Json → List Token
  | null => [.null]
  | bool b => [.bool b]
  | number digits => [.number digits]
  | string text? => [.string text?]
  | array items => .beginArray :: itemTokens items ++ [.endArray]
  | object fields => .beginObject :: memberTokens fields ++ [.endObject]
  | illegible => [.beginObject, .endObject]

def itemTokens : List Json → List Token
  | [] => []
  | [item] => item.tokens
  | item :: rest => item.tokens ++ .comma :: itemTokens rest

def memberTokens : List (String × Json) → List Token
  | [] => []
  | [(key, item)] => .string (some key) :: .colon :: item.tokens
  | (key, item) :: rest =>
    .string (some key) :: .colon :: item.tokens ++ .comma :: memberTokens rest
end

theorem itemTokens_cons_cons (item second : Json) (items : List Json) :
    itemTokens (item :: second :: items) = item.tokens ++ .comma :: itemTokens (second :: items) := by
  simp [itemTokens]

theorem memberTokens_cons_cons (key : String) (item : Json) (second : String × Json)
    (fields : List (String × Json)) :
    memberTokens ((key, item) :: second :: fields) =
      .string (some key) :: .colon :: (item.tokens ++ .comma :: memberTokens (second :: fields)) := by
  simp [memberTokens]

section Writing

variable {rest : List Char} {later : List Token}

theorem newLine_append (depth : Nat) (rest : List Char) :
    (newLine depth).toList ++ rest = '\n' :: (List.replicate (2 * depth) ' ' ++ rest) := by
  simp [newLine]

theorem ends_newLine (depth : Nat) (rest : List Char) : Ends ((newLine depth).toList ++ rest) := by
  rw [newLine_append]
  intro c same
  obtain rfl := Option.some.inj same
  decide

theorem ends_comma (rest : List Char) : Ends (',' :: rest) := by
  intro c same
  obtain rfl := Option.some.inj same
  decide

theorem Reads.newLine (depth : Nat) (reads : Reads rest later) :
    Reads ((newLine depth).toList ++ rest) later := by
  have blanks (n : Nat) : Reads (List.replicate n ' ' ++ rest) later := by
    induction n with
    | zero => exact reads
    | succ n ih => exact .blank rfl ih
  rw [newLine_append]
  exact .blank rfl (blanks _)

theorem Reads.mark {c : Char} {token : Token} (reads : Reads rest later)
    (read : first? (c :: rest) = some (token, rest)) (noBlank : isBlank c = false) :
    Reads (c :: rest) (token :: later) :=
  .token noBlank read (Nat.le_refl _) reads

theorem Reads.quote (key : String) (reads : Reads rest later) :
    Reads ((quote key).toList ++ rest) (.string (some key) :: later) :=
  .append (by simp [Json.quote]) (by simp [Json.quote, isBlank]) (first?_quote key rest) reads

theorem Starts.noBlank {c : Char} (starts : Starts c) : isBlank c = false := by
  rw [← Bool.not_eq_true]
  intro blank
  have cases : ((c = ' ' ∨ c = '\n') ∨ c = '\t') ∨ c = '\r' := by simpa [isBlank] using blank
  obtain ((rfl | rfl) | rfl) | rfl := cases <;> revert starts <;> decide

theorem Reads.number {digits : List Char} (isNumber : IsNumber digits) (ends : Ends rest)
    (reads : Reads rest later) :
    Reads (digits ++ rest) (.number (String.ofList digits) :: later) := by
  have read := first?_number isNumber ends
  obtain ⟨c, more, rfl, starts⟩ := isNumber.starts
  refine .append (List.cons_ne_nil _ _) (fun first same => ?_) read reads
  obtain rfl := Option.some.inj same
  exact starts.noBlank

mutual
theorem reads_prettyAt (value : Json) (printable : value.Printable) (depth : Nat)
    {rest : List Char} {later : List Token} (ends : Ends rest) (reads : Reads rest later) :
    Reads ((value.prettyAt depth).toList ++ rest) (value.tokens ++ later) := by
  match value, printable with
  | .null, _ =>
    have whole : Reads (['n', 'u', 'l', 'l'] ++ rest) (.null :: later) :=
      .append (by simp) (by simp [isBlank]) rfl reads
    simpa [prettyAt, tokens] using whole
  | .bool true, _ =>
    have whole : Reads (['t', 'r', 'u', 'e'] ++ rest) (.bool true :: later) :=
      .append (by simp) (by simp [isBlank]) rfl reads
    simpa [prettyAt, tokens] using whole
  | .bool false, _ =>
    have whole : Reads (['f', 'a', 'l', 's', 'e'] ++ rest) (.bool false :: later) :=
      .append (by simp) (by simp [isBlank]) rfl reads
    simpa [prettyAt, tokens] using whole
  | .number digits, .number isNumber =>
    have whole := reads.number isNumber ends
    rwa [String.ofList_toList] at whole
  | .string _, .text s => exact reads.quote s
  | .array [], _ =>
    have whole := Reads.mark (c := '[') (.mark (c := ']') reads rfl rfl) rfl rfl
    simpa [prettyAt, tokens, itemTokens] using whole
  | .array (item :: items), .array all =>
    have close := (Reads.mark (c := ']') reads rfl rfl).newLine depth
    have inside := reads_prettyItems (item :: items) all (depth + 1) (ends_newLine depth _) close
    have whole := Reads.mark (c := '[') inside rfl rfl
    simpa [prettyAt, tokens] using whole
  | .object [], _ =>
    have whole := Reads.mark (c := '\x7b') (.mark (c := '\x7d') reads rfl rfl) rfl rfl
    simpa [prettyAt, tokens, memberTokens] using whole
  | .object (field :: fields), .object all =>
    have close := (Reads.mark (c := '\x7d') reads rfl rfl).newLine depth
    have inside := reads_prettyMembers (field :: fields) all (depth + 1) (ends_newLine depth _) close
    have whole := Reads.mark (c := '\x7b') inside rfl rfl
    simpa [prettyAt, tokens] using whole

theorem reads_prettyItems (items : List Json) (all : ∀ item ∈ items, item.Printable) (depth : Nat)
    {rest : List Char} {later : List Token} (ends : Ends rest) (reads : Reads rest later) :
    Reads ((prettyItems depth items).toList ++ rest) (itemTokens items ++ later) := by
  match items with
  | [] => exact reads
  | [item] =>
    have first := (reads_prettyAt item (all item (by simp)) depth ends reads).newLine depth
    simpa [prettyItems, itemTokens] using first
  | item :: second :: items =>
    have later := reads_prettyItems (second :: items)
      (fun item member => all item (List.mem_cons_of_mem _ member)) depth ends reads
    have first := (reads_prettyAt item (all item (by simp)) depth (ends_comma _)
      (.mark (c := ',') later rfl rfl)).newLine depth
    simpa [prettyItems, itemTokens] using first

theorem reads_prettyMembers (fields : List (String × Json)) (all : ∀ field ∈ fields, field.2.Printable)
    (depth : Nat) {rest : List Char} {later : List Token} (ends : Ends rest)
    (reads : Reads rest later) :
    Reads ((prettyMembers depth fields).toList ++ rest) (memberTokens fields ++ later) := by
  match fields with
  | [] => exact reads
  | [(key, item)] =>
    have value := reads_prettyAt item (all (key, item) (by simp)) depth ends reads
    have named := ((Reads.mark (c := ':') (.blank (c := ' ') rfl value) rfl rfl).quote key).newLine depth
    simpa [prettyMembers, memberTokens] using named
  | (key, item) :: second :: fields =>
    have later := reads_prettyMembers (second :: fields)
      (fun field member => all field (List.mem_cons_of_mem _ member)) depth ends reads
    have value := reads_prettyAt item (all (key, item) (by simp)) depth (ends_comma _)
      (.mark (c := ',') later rfl rfl)
    have named := ((Reads.mark (c := ':') (.blank (c := ' ') rfl value) rfl rfl).quote key).newLine depth
    simpa [prettyMembers, memberTokens] using named
end

end Writing

section Reading

variable {fuel : Nat} {rest : List Token}

theorem tokens_head (value : Json) :
    ∃ first later, value.tokens = first :: later ∧ first ≠ .endArray := by
  cases value <;> exact ⟨_, _, rfl, by simp⟩

theorem value?_array {item : Json} {items : List Json}
    (read : valuesFrom? fuel (itemTokens (item :: items) ++ .endArray :: rest) =
      some (item :: items, rest)) :
    value? (fuel + 1) ((Json.array (item :: items)).tokens ++ rest) =
      some (.array (item :: items), rest) := by
  have head : ∃ first later, itemTokens (item :: items) = first :: later ∧ first ≠ .endArray := by
    obtain ⟨first, later, tokens, other⟩ := tokens_head item
    cases items with
    | nil => exact ⟨first, later, by simp [itemTokens, tokens], other⟩
    | cons second items =>
      exact ⟨first, later ++ .comma :: itemTokens (second :: items), by simp [itemTokens, tokens],
        other⟩
  obtain ⟨first, later, tokens, other⟩ := head
  have whole : (Json.array (item :: items)).tokens ++ rest =
      .beginArray :: (first :: later ++ .endArray :: rest) := by
    simp [Json.tokens, tokens]
  rw [tokens] at read
  rw [whole, value?, read]
  · rfl
  · exact fun more same => other (List.cons.inj same).1

theorem mapM_map {α β : Type} {write : α → β} {read? : β → Option α} {items : List α}
    (back : ∀ item ∈ items, read? (write item) = some item) :
    (items.map write).mapM read? = some items := by
  induction items with
  | nil => rfl
  | cons item rest ih =>
    simp [back item List.mem_cons_self, ih fun item member => back item (List.mem_cons_of_mem _ member)]

theorem objectOf_texts (fields : List (String × Json)) :
    objectOf (fields.map fun field => (some field.1, field.2)) = .object fields := by
  rw [objectOf, mapM_map]
  exact fun field _ => rfl

theorem value?_object {field : String × Json} {fields : List (String × Json)}
    (read : membersFrom? fuel (memberTokens (field :: fields) ++ .endObject :: rest) =
      some ((field :: fields).map fun field => (some field.1, field.2), rest)) :
    value? (fuel + 1) ((Json.object (field :: fields)).tokens ++ rest) =
      some (.object (field :: fields), rest) := by
  have head : ∃ later, memberTokens (field :: fields) = .string (some field.1) :: later := by
    cases fields with
    | nil => exact ⟨.colon :: field.2.tokens, by simp [memberTokens]⟩
    | cons second fields =>
      exact ⟨.colon :: field.2.tokens ++ .comma :: memberTokens (second :: fields),
        memberTokens_cons_cons field.1 field.2 second fields⟩
  obtain ⟨later, tokens⟩ := head
  have whole : (Json.object (field :: fields)).tokens ++ rest =
      .beginObject :: (.string (some field.1) :: later ++ .endObject :: rest) := by
    simp [Json.tokens, tokens]
  rw [tokens] at read
  rw [whole, value?, read]
  · simp only [Option.map_some, objectOf_texts]
  · exact fun more same => nomatch (List.cons.inj same).1

mutual
theorem value?_tokens (value : Json) (printable : value.Printable) {fuel : Nat} {rest : List Token}
    (enough : 2 * value.tokens.length ≤ fuel + 1) :
    value? fuel (value.tokens ++ rest) = some (value, rest) := by
  obtain ⟨first, later, head, -⟩ := tokens_head value
  have positive : fuel ≠ 0 := by
    rw [head, List.length_cons] at enough
    omega
  obtain ⟨fuel, rfl⟩ := Nat.exists_eq_succ_of_ne_zero positive
  match value, printable with
  | .null, _ => rfl
  | .bool _, _ => rfl
  | .number _, _ => rfl
  | .string _, _ => rfl
  | .array [], _ => rfl
  | .object [], _ => rfl
  | .array (item :: items), .array all =>
    have length : (Json.array (item :: items)).tokens.length = (itemTokens (item :: items)).length + 2 := by
      simp [tokens]
    exact value?_array (valuesFrom?_tokens item items all (by omega))
  | .object (field :: fields), .object all =>
    have length : (Json.object (field :: fields)).tokens.length =
        (memberTokens (field :: fields)).length + 2 := by
      simp [tokens]
    exact value?_object (membersFrom?_tokens field fields all (by omega))

theorem valuesFrom?_tokens (item : Json) (items : List Json)
    (all : ∀ value ∈ item :: items, value.Printable) {fuel : Nat} {rest : List Token}
    (enough : 2 * (itemTokens (item :: items)).length ≤ fuel) :
    valuesFrom? fuel (itemTokens (item :: items) ++ .endArray :: rest) =
      some (item :: items, rest) := by
  obtain ⟨first, later, head, -⟩ := tokens_head item
  have positive : 0 < item.tokens.length := by simp [head]
  match items with
  | [] =>
    simp only [itemTokens] at enough ⊢
    obtain ⟨fuel, rfl⟩ := Nat.exists_eq_succ_of_ne_zero (show fuel ≠ 0 by omega)
    rw [valuesFrom?, value?_tokens item (all item List.mem_cons_self) (by omega)]
  | second :: items =>
    rw [itemTokens_cons_cons, List.length_append, List.length_cons] at enough
    obtain ⟨fuel, rfl⟩ := Nat.exists_eq_succ_of_ne_zero (show fuel ≠ 0 by omega)
    have further : valuesFrom? fuel (itemTokens (second :: items) ++ .endArray :: rest) = _ :=
      valuesFrom?_tokens second items (fun value member => all value (List.mem_cons_of_mem _ member))
        (by omega)
    rw [itemTokens_cons_cons, List.append_assoc, valuesFrom?,
      value?_tokens item (all item List.mem_cons_self) (by omega), List.cons_append]
    simp only [further, Option.map_some]

theorem membersFrom?_tokens (field : String × Json) (fields : List (String × Json))
    (all : ∀ member ∈ field :: fields, member.2.Printable) {fuel : Nat} {rest : List Token}
    (enough : 2 * (memberTokens (field :: fields)).length ≤ fuel) :
    membersFrom? fuel (memberTokens (field :: fields) ++ .endObject :: rest) =
      some ((field :: fields).map fun field => (some field.1, field.2), rest) := by
  obtain ⟨key, item⟩ := field
  match fields with
  | [] =>
    simp only [memberTokens, List.length_cons] at enough
    obtain ⟨fuel, rfl⟩ := Nat.exists_eq_succ_of_ne_zero (show fuel ≠ 0 by omega)
    simp only [memberTokens, List.cons_append, membersFrom?]
    rw [value?_tokens item (all (key, item) List.mem_cons_self) (by omega)]
    rfl
  | second :: fields =>
    simp only [memberTokens_cons_cons, List.length_append, List.length_cons] at enough
    obtain ⟨fuel, rfl⟩ := Nat.exists_eq_succ_of_ne_zero (show fuel ≠ 0 by omega)
    have further : membersFrom? fuel (memberTokens (second :: fields) ++ .endObject :: rest) = _ :=
      membersFrom?_tokens second fields
        (fun member isMember => all member (List.mem_cons_of_mem _ isMember)) (by omega)
    simp only [memberTokens_cons_cons, List.cons_append, List.append_assoc, membersFrom?]
    rw [value?_tokens item (all (key, item) List.mem_cons_self) (by omega)]
    simp only [further, Option.map_some, List.map_cons]
end

end Reading

/-- What is written for a value is read as this value. -/
theorem parse?_pretty {value : Json} (printable : value.Printable) :
    parse? value.pretty = some value := by
  have reads : Reads value.pretty.toList value.tokens := by
    have whole := reads_prettyAt value printable 0 (fun _ same => absurd same (by simp)) .done
    rwa [List.append_nil, List.append_nil] at whole
  have read : value? (2 * value.tokens.length + 1) (value.tokens ++ []) = some (value, []) :=
    value?_tokens value printable (by omega)
  rw [List.append_nil] at read
  rw [parse?, reads.tokens?, Option.bind_some, read]

end MutationTesting.Json
