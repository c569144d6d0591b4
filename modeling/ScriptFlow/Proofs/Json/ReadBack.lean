import ScriptFlow.Json.Parser
import ScriptFlow.Proofs.Json.Token
import ScriptFlow.Proofs.Results

/-!
# Printed values read back

A printed value is divided into its tokens (`lexes_prettyAt`), and its tokens are read as
the value (`readValue_tokens`).  Both go by induction on the value: what a container
holds is spelled item by item, with commas between the items.

Numbers that are not written with digits only and strings with half a surrogate pair have
no printed form of their own, so they are left out (`Json.IsExact`).
-/

namespace ScriptFlow

namespace Json

open Text

/-- A value whose numbers are written with digits only and whose strings are texts. -/
inductive IsExact : Json → Prop where
  | null : IsExact .null
  | bool (value : Bool) : IsExact (.bool value)
  | nat (value : Nat) : IsExact (.nat value)
  | str (text : Text) : IsExact (.str text)
  | arr {elements : List Json} (elements_exact : ∀ value ∈ elements, IsExact value) :
    IsExact (.arr elements)
  | obj {members : List (Text × Json)} (members_exact : ∀ member ∈ members, IsExact member.2) :
    IsExact (.obj members)

/-! ## The tokens of a value -/

mutual

/-- The tokens that spell a value. -/
def tokens : Json → List Token
  | .null => [.null]
  | .bool true => [.true]
  | .bool false => [.false]
  | .nat value => [.nat value]
  | .decimal literal => [.decimal literal]
  | .str text => [.str text]
  | .unpaired => [.unpaired]
  | .arr elements =>
    .openBracket :: ([Token.comma].intercalate (elementTokens elements) ++ [.closeBracket])
  | .obj members =>
    .openBrace :: ([Token.comma].intercalate (memberTokens members) ++ [.closeBrace])

/-- The tokens of the elements, each on its own. -/
def elementTokens : List Json → List (List Token)
  | [] => []
  | value :: rest => tokens value :: elementTokens rest

/-- The tokens of the members, each on its own. -/
def memberTokens : List (Text × Json) → List (List Token)
  | [] => []
  | (key, value) :: rest => (.str key :: .colon :: tokens value) :: memberTokens rest

end

lemma elementTokens_eq (elements : List Json) : elementTokens elements = elements.map tokens := by
  induction elements with
  | nil => rfl
  | cons value rest ih => rw [elementTokens, ih, List.map_cons]

lemma memberTokens_eq (members : List (Text × Json)) :
    memberTokens members =
      members.map fun member => .str member.1 :: .colon :: tokens member.2 := by
  induction members with
  | nil => rfl
  | cons member rest ih => rw [memberTokens, ih, List.map_cons]

lemma prettyElements_eq (depth : Nat) (elements : List Json) :
    prettyElements depth elements = elements.map (prettyAt depth) := by
  induction elements with
  | nil => rfl
  | cons value rest ih => rw [prettyElements, ih, List.map_cons]

lemma prettyMembers_eq (depth : Nat) (members : List (Text × Json)) :
    prettyMembers depth members =
      members.map fun member => quote member.1 ++ [':', ' '] ++ prettyAt depth member.2 := by
  induction members with
  | nil => rfl
  | cons member rest ih => rw [prettyMembers, ih, List.map_cons]

/-! ## Printed values are divided into their tokens -/

open Token

/-- Texts with commas between them are divided into their tokens with commas between
them. -/
lemma lexes_join {items : List Text} {spelled : List (List Token)}
    (h : List.Forall₂ Lexes items spelled) :
    Lexes (join [','] items) ([Token.comma].intercalate spelled) := by
  induction h with
  | nil => exact lexes_nil
  | @cons item first items spelled hitem hitems ih =>
    cases hitems with
    | nil =>
      rw [join, List.intercalate_singleton, List.intercalate_singleton]
      exact hitem
    | cons hnext hrest =>
      rw [join, List.intercalate_cons_cons, List.intercalate_cons_cons, List.append_assoc,
        List.append_assoc]
      exact hitem.append (ih.cons (by decide) fun _ => rfl) (endsNumber_cons (by decide))

lemma isGap_of_mem_newLine {depth : Nat} {c : Char} (hc : c ∈ newLine depth) : isGap c := by
  rcases List.mem_cons.mp hc with rfl | hc
  · rfl
  · rw [List.eq_of_mem_replicate hc]
    rfl

/-- Items on lines of their own are divided into their tokens with commas between them. -/
lemma lexes_block {opening closing : Char} {first last : Token}
    (hopening : ¬isGap opening) (hfirst : ∀ rest, next? (opening :: rest) = some (first, rest))
    (hclosing : ¬isGap closing) (hlast : ∀ rest, next? (closing :: rest) = some (last, rest))
    {items : List Text} {spelled : List (List Token)} (h : List.Forall₂ Lexes items spelled)
    (depth : Nat) :
    Lexes (block opening closing depth items)
      (first :: ([Token.comma].intercalate spelled ++ [last])) := by
  have hclose : Lexes [closing] [last] := lexes_nil.cons hclosing hlast
  unfold block
  split
  next hempty =>
    obtain rfl := List.isEmpty_iff.mp hempty
    cases h
    exact hclose.cons hopening hfirst
  next =>
    have hlines : List.Forall₂ Lexes (items.map (newLine (depth + 1) ++ ·)) spelled := by
      rw [List.forall₂_map_left_iff]
      exact h.imp fun _ _ hitem => hitem.gap fun _ hc => isGap_of_mem_newLine hc
    have hend : Lexes (newLine depth ++ [closing]) [last] :=
      hclose.gap fun _ hc => isGap_of_mem_newLine hc
    rw [List.append_assoc, List.append_assoc, List.singleton_append]
    exact ((lexes_join hlines).append hend (endsNumber_cons (by decide))).cons hopening hfirst

/-- A word is one token. -/
lemma lexes_word {c : Char} {t : Text} {token : Token} (hc : ¬isGap c)
    (hnext : ∀ rest, next? (c :: (t ++ rest)) = some (token, rest)) : Lexes (c :: t) [token] :=
  fun _ _ _ hrest => ofText?_token hc (hnext _) hrest

/-- A printed value is divided into its tokens. -/
lemma lexes_prettyAt {value : Json} (h : IsExact value) (depth : Nat) :
    Lexes (prettyAt depth value) (tokens value) := by
  induction h generalizing depth with
  | null => exact lexes_word (c := 'n') (t := "ull") (by decide) fun _ => rfl
  | bool value =>
    cases value with
    | true => exact lexes_word (c := 't') (t := "rue") (by decide) fun _ => rfl
    | false => exact lexes_word (c := 'f') (t := "alse") (by decide) fun _ => rfl
  | nat value => exact lexes_ofNat value
  | str text => exact lexes_quote text
  | @arr elements _ ih =>
    rw [prettyAt, tokens, prettyElements_eq, elementTokens_eq]
    refine lexes_block (by decide) (fun _ => rfl) (by decide) (fun _ => rfl) ?_ depth
    rw [List.forall₂_map_left_iff, List.forall₂_map_right_iff, List.forall₂_same]
    exact fun value hvalue => ih value hvalue (depth + 1)
  | @obj members _ ih =>
    rw [prettyAt, tokens, prettyMembers_eq, memberTokens_eq]
    refine lexes_block (by decide) (fun _ => rfl) (by decide) (fun _ => rfl) ?_ depth
    rw [List.forall₂_map_left_iff, List.forall₂_map_right_iff, List.forall₂_same]
    intro member hmember
    have hvalue : Lexes ([' '] ++ prettyAt (depth + 1) member.2) (tokens member.2) :=
      (ih member hmember (depth + 1)).gap (List.forall_mem_singleton.mpr (by decide))
    rw [List.append_assoc]
    exact (lexes_quote member.1).append (hvalue.cons (by decide) fun _ => rfl)
      (endsNumber_cons (by decide))

/-! ## Tokens are read as their values -/

/-- The tokens of a value are read as this value, whatever stands behind them. -/
def Reads (value : Json) : Prop :=
  ∀ depth rest, (tokens value).length ≤ depth →
    readValue depth (tokens value ++ rest) = some (value, rest)

/-- The tokens of one or more elements are read as these elements. -/
lemma readElements_eq {first : Json} {elements : List Json}
    (h : ∀ value ∈ first :: elements, Reads value) (depth : Nat)
    (hdepth : ([Token.comma].intercalate ((first :: elements).map tokens)).length < depth)
    (rest : List Token) :
    readElements depth
        ([Token.comma].intercalate ((first :: elements).map tokens) ++ .closeBracket :: rest) =
      some (first :: elements, rest) := by
  induction elements generalizing first depth with
  | nil =>
    cases depth with
    | zero => omega
    | succ depth =>
      rw [List.map_singleton, List.intercalate_singleton] at hdepth ⊢
      have hfirst := h first List.mem_cons_self depth (.closeBracket :: rest) (by omega)
      simp [readElements, hfirst]
  | cons second elements ih =>
    cases depth with
    | zero => omega
    | succ depth =>
      rw [List.map_cons, List.map_cons, List.intercalate_cons_cons] at hdepth ⊢
      simp only [List.length_append, List.length_singleton] at hdepth
      have hfirst := fun rest => h first List.mem_cons_self depth rest (by omega)
      have hrest := ih (fun value hvalue => h value (List.mem_cons_of_mem _ hvalue)) depth
        (by rw [List.map_cons]; omega)
      rw [List.map_cons] at hrest
      generalize [Token.comma].intercalate (_ :: _) = spelled at hrest ⊢
      simp [readElements, hfirst, hrest]

/-- The tokens of one or more members are read as these members. -/
lemma readMembers_eq {first : Text × Json} {members : List (Text × Json)}
    (h : ∀ member ∈ first :: members, Reads member.2) (depth : Nat)
    (hdepth : ([Token.comma].intercalate ((first :: members).map fun member =>
      .str member.1 :: .colon :: tokens member.2)).length < depth)
    (rest : List Token) :
    readMembers depth
        ([Token.comma].intercalate ((first :: members).map fun member =>
          .str member.1 :: .colon :: tokens member.2) ++ .closeBrace :: rest) =
      some ((first :: members).map fun member => (some member.1, member.2), rest) := by
  induction members generalizing first depth with
  | nil =>
    cases depth with
    | zero => omega
    | succ depth =>
      rw [List.map_singleton, List.intercalate_singleton] at hdepth ⊢
      simp only [List.length_cons] at hdepth
      have hfirst := h first List.mem_cons_self depth (.closeBrace :: rest) (by omega)
      simp [readMembers, hfirst]
  | cons second members ih =>
    cases depth with
    | zero => omega
    | succ depth =>
      rw [List.map_cons, List.map_cons, List.intercalate_cons_cons] at hdepth ⊢
      simp only [List.length_append, List.length_cons, List.length_nil] at hdepth
      have hfirst := fun rest => h first List.mem_cons_self depth rest (by omega)
      have hrest := ih (fun member hmember => h member (List.mem_cons_of_mem _ hmember)) depth
        (by rw [List.map_cons]; omega)
      rw [List.map_cons] at hrest
      generalize [Token.comma].intercalate (_ :: _) = spelled at hrest ⊢
      simp [readMembers, hfirst, hrest]

/-- A value with one token is read if this token is. -/
lemma reads_of_token {value : Json} {token : Token} (htokens : tokens value = [token])
    (hread : ∀ depth rest, readValue (depth + 1) (token :: rest) = some (value, rest)) :
    Reads value := by
  intro depth rest hdepth
  rw [htokens] at hdepth ⊢
  cases depth with
  | zero => exact absurd hdepth (by simp)
  | succ depth => exact hread depth rest

/-- A bracket that opens and is not closed at once has elements behind it. -/
lemma readValue_openBracket {depth : Nat} {behind : List Token}
    (hopen : behind.head? ≠ some .closeBracket) :
    readValue (depth + 1) (.openBracket :: behind) =
      (readElements depth behind).map fun (elements, rest) => (.arr elements, rest) := by
  rw [readValue]
  · cases readElements depth behind <;> rfl
  · rintro rest rfl
    exact hopen rfl

/-- The first token of an element closes nothing. -/
lemma head?_intercalate_append_ne (first : Json) (spelled : List (List Token))
    (rest : List Token) :
    ([Token.comma].intercalate (tokens first :: spelled) ++ rest).head? ≠ some .closeBracket := by
  have hfirst : ∃ token behind, tokens first = token :: behind ∧ token ≠ .closeBracket := by
    rcases first with _ | value | _ | _ | _ | _ | _ | _
    case bool => cases value <;> exact ⟨_, _, rfl, by simp⟩
    all_goals exact ⟨_, _, rfl, by simp⟩
  obtain ⟨token, behind, htokens, hne⟩ := hfirst
  rw [htokens]
  cases spelled with
  | nil => simp [hne]
  | cons next spelled => simp [hne]

/-- Members whose keys are texts are the members of an object. -/
lemma ofMembers_map (members : List (Text × Json)) :
    ofMembers (members.map fun member => (some member.1, member.2)) = .obj members := by
  rw [ofMembers, mapM_map_eq_some]
  exact fun _ _ => rfl

/-- The tokens of a value are read as this value. -/
lemma reads_of_isExact {value : Json} (h : IsExact value) : Reads value := by
  induction h with
  | null => exact reads_of_token rfl fun _ _ => rfl
  | bool value => cases value <;> exact reads_of_token rfl fun _ _ => rfl
  | nat value => exact reads_of_token rfl fun _ _ => rfl
  | str text => exact reads_of_token rfl fun _ _ => rfl
  | @arr elements _ ih =>
    intro depth rest hdepth
    rw [tokens, elementTokens_eq] at hdepth ⊢
    rw [List.length_cons, List.length_append, List.length_singleton] at hdepth
    cases depth with
    | zero => omega
    | succ depth =>
      cases elements with
      | nil => rfl
      | cons first elements =>
        have hread := readElements_eq ih depth (by omega) rest
        have hopen : ([Token.comma].intercalate ((first :: elements).map tokens) ++
            .closeBracket :: rest).head? ≠ some .closeBracket := by
          rw [List.map_cons]
          exact head?_intercalate_append_ne first _ _
        rw [List.cons_append, List.append_assoc, List.singleton_append,
          readValue_openBracket hopen, hread]
        rfl
  | @obj members _ ih =>
    intro depth rest hdepth
    rw [tokens, memberTokens_eq] at hdepth ⊢
    rw [List.length_cons, List.length_append, List.length_singleton] at hdepth
    cases depth with
    | zero => omega
    | succ depth =>
      cases members with
      | nil => rfl
      | cons first members =>
        have hread := readMembers_eq ih depth (by omega) rest
        rw [List.cons_append, List.append_assoc, List.singleton_append, readValue, hread]
        · exact congrArg (fun value => some (value, rest)) (ofMembers_map (first :: members))
        · intro behind
          cases members <;> simp

/-- A text that is divided into the tokens of a value is read as this value, however it lays
them out. -/
lemma parse?_of_ofText? {value : Json} (h : IsExact value) {t : Text}
    (htokens : Token.ofText? t = some (tokens value)) : parse? t = some value := by
  have hread := reads_of_isExact h _ [] (Nat.le_refl _)
  rw [List.append_nil] at hread
  rw [parse?, htokens, Option.bind_some, ofTokens?, hread]

/-- A printed value is read as this value. -/
theorem parse?_pretty {value : Json} (h : IsExact value) : parse? (pretty value) = some value :=
  parse?_of_ofText? h (lexes_prettyAt h 0).ofText?_eq

end Json

end ScriptFlow
