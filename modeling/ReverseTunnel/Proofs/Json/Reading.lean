import ReverseTunnel.Json.Value
import ReverseTunnel.Proofs.Json.Numbers
import ReverseTunnel.Proofs.Json.Strings
import ReverseTunnel.Proofs.Text.Split

/-!
# Reading what was written

A value is written as characters, cut into tokens, built into a tree and read as a value again.
The tokens and the tree of a value are defined here by recursion on the value, and each of the
three steps is followed by itself: what the tokenizer finds (`Scans`), what the tokens build
(`Builds`), and what the tree means. Tokens and trees of the parts are put together in the same way
as the parts are, so nothing has to be known about the stack or the text around a value but that
the text behind it does not go on with its last word.

Numbers are the exception to the rule that everything written can be read. A number is kept as it
was read, so a value could hold one with letters for digits; the numbers here are natural and not
too large.

## Main results

* `Writable.scans`: the tokenizer finds the tokens of a value.
* `Writable.builds`: these tokens build its tree.
* `Tree.parse?_print`, `Value.parse?_print`: what was written is read.
-/

namespace ReverseTunnel.Json

open Text

/-- The values that are written: nested at most `depth` deep, with numbers that are natural and
have at most 53 bits, so that a double holds them exactly. -/
inductive Writable : Nat → Value → Prop
  | null {depth : Nat} : Writable depth .null
  | bool {depth : Nat} (b : Bool) : Writable depth (.bool b)
  | natural {depth n : Nat} (h : n < 9007199254740992) : Writable depth (.number (.ofNat n))
  | string {depth : Nat} (s : String) : Writable depth (.string s)
  | array {depth : Nat} {items : List Value} (h : ∀ item ∈ items, Writable depth item) :
      Writable (depth + 1) (.array items)
  | object {depth : Nat} {fields : List (String × Value)}
      (h : ∀ field ∈ fields, Writable depth field.2) : Writable (depth + 1) (.object fields)

/-! ### Tokens and trees -/

/-- The value of a field is smaller than the list of fields it is in, as recursion over values needs
it. -/
theorem sizeOf_lt_of_mem_fields {fields : List (String × Value)} {field : String × Value}
    (h : field ∈ fields) : sizeOf field.2 < sizeOf fields := by
  have hfield := List.sizeOf_lt_of_mem h
  rcases field with ⟨name, value⟩
  simp only [Prod.mk.sizeOf_spec] at hfield ⊢
  omega

/-- The tree of a value as it is written. -/
def Value.tree : Value → Tree
  | .null => .null
  | .bool b => .bool b
  | .number n => .number n
  | .string s => .string (escape s)
  | .array items => .array (items.map Value.tree)
  | .object fields => .object (fields.map fun field => (escape field.1, field.2.tree))
decreasing_by
  · decreasing_tactic
  · have := sizeOf_lt_of_mem_fields ‹_›
    simp only [Value.object.sizeOf_spec]
    omega

/-- The tokens of a value as it is written. -/
def Value.tokens : Value → List Token
  | .null => [.null]
  | .bool b => [.bool b]
  | .number n => [.number n]
  | .string s => [.string (escape s)]
  | .array items => .openArray :: ([.comma].intercalate (items.map Value.tokens) ++ [.closeArray])
  | .object fields =>
    .openObject :: ([.comma].intercalate
      (fields.map fun field => .string (escape field.1) :: .colon :: field.2.tokens)
        ++ [.closeObject])
decreasing_by
  · decreasing_tactic
  · have := sizeOf_lt_of_mem_fields ‹_›
    simp only [Value.object.sizeOf_spec]
    omega

/-- The items of an array are printed one by one, with commas between them. -/
theorem printItems_eq (items : List Value) :
    Value.printItems items = [','].intercalate (items.map Value.printChars) := by
  induction items with
  | nil => rfl
  | cons item items ih =>
    cases items with
    | nil => simp [Value.printItems]
    | cons next items => simp [Value.printItems, ih, List.intercalate_cons_cons]

/-- The fields of an object are printed as name, colon and value, with commas between them. -/
theorem printFields_eq (fields : List (String × Value)) :
    Value.printFields fields =
      [','].intercalate (fields.map fun field => quote field.1 ++ ':' :: field.2.printChars) := by
  induction fields with
  | nil => rfl
  | cons field fields ih =>
    cases fields with
    | nil => simp [Value.printFields]
    | cons next fields => simp [Value.printFields, ih, List.intercalate_cons_cons]

/-! ### What the tokenizer finds -/

/-- The tokenizer finds these tokens, whatever stands before and behind the characters. -/
def Scans (cs : List Char) (tokens : List Token) : Prop :=
  ∀ (found : List Token) (rest : Bytes), Breaks rest →
    Token.scanFrom found .gap (cs.flatMap String.utf8EncodeChar ++ rest) =
      Token.scanFrom (tokens.reverse ++ found) .gap rest

/-- A character that is a token by itself and belongs to no word. -/
def IsMark (c : Char) (token : Token) : Prop :=
  ∃ b, String.utf8EncodeChar c = [b] ∧ Token.start? b = some (some token, .gap) ∧
    Token.isNumberByte b = false ∧ Token.isLetter b = false

/-- The bracket that opens an array is scanned as such. -/
theorem isMark_openArray : IsMark '[' .openArray := ⟨0x5B, by decide, rfl, by decide, by decide⟩

/-- The bracket that closes an array is scanned as such. -/
theorem isMark_closeArray : IsMark ']' .closeArray := ⟨0x5D, by decide, rfl, by decide, by decide⟩

/-- The brace that opens an object is scanned as such. -/
theorem isMark_openObject : IsMark '\x7b' .openObject :=
  ⟨0x7B, by decide, rfl, by decide, by decide⟩

/-- The brace that closes an object is scanned as such. -/
theorem isMark_closeObject : IsMark '\x7d' .closeObject :=
  ⟨0x7D, by decide, rfl, by decide, by decide⟩

/-- The comma between items is scanned as such. -/
theorem isMark_comma : IsMark ',' .comma := ⟨0x2C, by decide, rfl, by decide, by decide⟩

/-- The colon behind the name of a field is scanned as such. -/
theorem isMark_colon : IsMark ':' .colon := ⟨0x3A, by decide, rfl, by decide, by decide⟩

namespace Scans

variable {cs cs' : List Char} {tokens tokens' : List Token} {mark : Char} {token : Token}

/-- No text is scanned into no tokens. -/
theorem nil : Scans [] [] := fun _ _ _ => rfl

/-- A mark in front of a text puts its token in front of those of the text. -/
theorem cons (hmark : IsMark mark token) (h : Scans cs tokens) :
    Scans (mark :: cs) (token :: tokens) := by
  obtain ⟨b, hbytes, hstart, -, -⟩ := hmark
  intro found rest hrest
  rw [List.flatMap_cons, hbytes, List.append_assoc, List.singleton_append, Token.scanFrom, hstart]
  simp only [Option.bind_eq_bind, Option.bind_some, Token.addTo]
  rw [h _ _ hrest, List.reverse_cons, List.append_assoc, List.singleton_append]

/-- A mark ends whatever stands before it. -/
theorem append_cons (h : Scans cs tokens) (hmark : IsMark mark token) (h' : Scans cs' tokens') :
    Scans (cs ++ mark :: cs') (tokens ++ token :: tokens') := by
  have hbehind := cons hmark h'
  obtain ⟨b, hbytes, -, hnumber, hletter⟩ := hmark
  intro found rest hrest
  have hbreaks : Breaks ((mark :: cs').flatMap String.utf8EncodeChar ++ rest) := by
    rw [List.flatMap_cons, hbytes]
    rintro _ ⟨⟩
    exact ⟨hnumber, hletter⟩
  rw [List.flatMap_append, List.append_assoc, h _ _ hbreaks, hbehind _ _ hrest,
    List.reverse_append, List.append_assoc]

/-- Parts with a mark between them are scanned into the tokens of the parts, with the token of the
mark between those. -/
theorem intercalate {α : Type} (hmark : IsMark mark token) {print : α → List Char}
    {scan : α → List Token} {parts : List α} (h : ∀ part ∈ parts, Scans (print part) (scan part)) :
    Scans ([mark].intercalate (parts.map print)) ([token].intercalate (parts.map scan)) := by
  induction parts with
  | nil => exact nil
  | cons part parts ih =>
    have hpart := h part List.mem_cons_self
    have hrest := ih fun other hother => h other (List.mem_cons_of_mem _ hother)
    cases parts with
    | nil => simpa only [List.map_cons, List.map_nil, List.intercalate_singleton] using hpart
    | cons next parts =>
      simp only [List.map_cons, List.intercalate_cons_cons, List.append_assoc,
        List.singleton_append] at hrest ⊢
      exact hpart.append_cons hmark hrest

/-- A text in quotes is scanned into a single token, which holds it as escaped. -/
theorem quote (s : String) : Scans (quote s) [.string (escape s)] :=
  fun found rest _ => scanFrom_quote s found rest

/-- A number in decimal is scanned into a single token. -/
theorem natural (n : Nat) : Scans (Nat.toDigits 10 n) [.number (.ofNat n)] :=
  fun found _ hrest => scanFrom_toDigits n hrest found

/-- The word `null` is scanned into its token, in front of anything that ends a word. -/
theorem null : Scans "null".toList [.null] := fun found _ hrest =>
  scanFrom_word_of_breaks [0x6C, 0x6C, 0x75, 0x6E] rfl hrest found

/-- The words `true` and `false` are scanned into their tokens, in front of anything that ends a
word. -/
theorem bool (b : Bool) : Scans (Value.bool b).printChars [.bool b] := fun found _ hrest =>
  match b with
  | true => scanFrom_word_of_breaks [0x65, 0x75, 0x72, 0x74] rfl hrest found
  | false => scanFrom_word_of_breaks [0x65, 0x73, 0x6C, 0x61, 0x66] rfl hrest found

end Scans

/-- The tokenizer finds the tokens of a value. -/
theorem Writable.scans {depth : Nat} {v : Value} (h : Writable depth v) :
    Scans v.printChars v.tokens := by
  induction h with
  | null =>
    rw [Value.printChars, Value.tokens]
    exact .null
  | bool b =>
    rw [Value.tokens]
    exact .bool b
  | @natural depth n _ =>
    rw [Value.printChars, Number.printChars_ofNat, Value.tokens]
    exact .natural n
  | string s =>
    rw [Value.printChars, Value.tokens]
    exact .quote s
  | array _ ih =>
    rw [Value.printChars, printItems_eq, Value.tokens]
    exact .cons isMark_openArray
      ((Scans.intercalate isMark_comma ih).append_cons isMark_closeArray .nil)
  | object _ ih =>
    rw [Value.printChars, printFields_eq, Value.tokens]
    have hfields := Scans.intercalate isMark_comma fun field hfield =>
      (Scans.quote field.1).append_cons isMark_colon (ih field hfield)
    exact .cons isMark_openObject (hfields.append_cons isMark_closeObject .nil)

/-! ### What the tokens build -/

/-- The tokens build this tree, whatever is open around it. -/
def Builds (tokens : List Token) (tree : Tree) : Prop :=
  ∀ (stack : List Tree.Open) (rest : List Token),
    (tokens ++ rest).foldlM Tree.step (.value stack) =
      rest.foldlM Tree.step (Tree.fill stack tree)

namespace Builds

/-- Where a value is built, something comes, and it is not the end of an array. -/
theorem exists_cons {tokens : List Token} {tree : Tree} (h : Builds tokens tree) :
    ∃ token more, tokens = token :: more ∧ token ≠ .closeArray := by
  have hbuilt := h [] []
  rcases tokens with _ | ⟨token, more⟩
  · cases hbuilt
  · refine ⟨token, more, rfl, ?_⟩
    rintro rfl
    cases hbuilt

/-- A token that is a value by itself builds that value, wherever it is met. -/
theorem single {token : Token} {tree : Tree}
    (h : ∀ stack, Tree.begin? stack token = some (Tree.fill stack tree)) :
    Builds [token] tree := by
  intro stack rest
  rw [List.singleton_append, List.foldlM_cons, Tree.step, h]
  rfl

/-- For the first token of a value, an opened array is as good as a comma. -/
theorem foldlM_arrayOpened {token : Token} (h : token ≠ .closeArray) (more : List Token)
    (stack : List Tree.Open) :
    (token :: more).foldlM Tree.step (.arrayOpened stack) =
      (token :: more).foldlM Tree.step (.value (.array [] :: stack)) := by
  have hstep : Tree.step (.arrayOpened stack) token =
      Tree.step (.value (.array [] :: stack)) token := by
    cases token with
    | closeArray => exact absurd rfl h
    | _ => rfl
  rw [List.foldlM_cons, List.foldlM_cons, hstep]

section

variable {α : Type} {scan : α → List Token} {tree : α → Tree}

/-- The values of an array that holds some already, and its end. -/
theorem items (item : α) (items : List α)
    (h : ∀ other ∈ item :: items, Builds (scan other) (tree other)) (seen : List Tree)
    (stack : List Tree.Open) (rest : List Token) :
    ([.comma].intercalate ((item :: items).map scan) ++ .closeArray :: rest).foldlM Tree.step
        (.value (.array seen :: stack)) =
      rest.foldlM Tree.step
        (Tree.fill stack (.array (seen.reverse ++ (item :: items).map tree))) := by
  induction items generalizing item seen with
  | nil =>
    rw [List.map_singleton, List.intercalate_singleton, h item List.mem_cons_self,
      List.foldlM_cons]
    simp [Tree.fill, Tree.step]
  | cons next items ih =>
    have hrest := ih next fun other hother => h other (List.mem_cons_of_mem _ hother)
    have hstep : Tree.step (Tree.fill (.array seen :: stack) (tree item)) .comma =
        some (.value (.array (tree item :: seen) :: stack)) := rfl
    simp only [List.map_cons] at hrest ⊢
    rw [List.intercalate_cons_cons, List.append_assoc, List.append_assoc,
      h item List.mem_cons_self, List.singleton_append, List.foldlM_cons, hstep,
      Option.bind_eq_bind, Option.bind_some, hrest, List.reverse_cons, List.append_assoc,
      List.singleton_append]

/-- Where every item is built from its own tokens, an array is built from a bracket, the tokens of
its items with commas between them, and a bracket. -/
theorem array {items : List α} (h : ∀ item ∈ items, Builds (scan item) (tree item)) :
    Builds (.openArray :: ([.comma].intercalate (items.map scan) ++ [.closeArray]))
      (.array (items.map tree)) := by
  intro stack rest
  have hopen : Tree.step (.value stack) .openArray = some (.arrayOpened stack) := rfl
  rw [List.cons_append, List.append_assoc, List.singleton_append, List.foldlM_cons, hopen,
    Option.bind_eq_bind, Option.bind_some]
  cases items with
  | nil => rfl
  | cons item items =>
    -- An opened array may end at once, so its first value is met in a state of its own.
    obtain ⟨token, more, htokens, htoken⟩ := (h item List.mem_cons_self).exists_cons
    obtain ⟨behind, hbehind⟩ : ∃ behind,
        [.comma].intercalate ((item :: items).map scan) = token :: behind := by
      cases items with
      | nil => exact ⟨more, by simp [htokens]⟩
      | cons next items => exact ⟨_, by simp [htokens, List.intercalate_cons_cons]; rfl⟩
    have hrest := Builds.items item items h [] stack rest
    rw [hbehind, List.cons_append] at hrest ⊢
    rw [foldlM_arrayOpened htoken, hrest, List.reverse_nil, List.nil_append]

end

/-- A field of an object, with the fields before it. -/
theorem field {tokens : List Token} {tree : Tree} (h : Builds tokens tree) (key : Bytes)
    (seen : List (Bytes × Tree)) (stack : List Tree.Open) (rest : List Token) :
    (.string key :: .colon :: tokens ++ rest).foldlM Tree.step (.fieldComma seen stack) =
      rest.foldlM Tree.step (.field ((key, tree) :: seen) stack) := by
  have hkey : Tree.step (.fieldComma seen stack) (.string key) = some (.key seen key stack) := rfl
  have hcolon : Tree.step (.key seen key stack) .colon =
      some (.value (.object seen key :: stack)) := rfl
  rw [List.cons_append, List.cons_append, List.foldlM_cons, hkey, Option.bind_eq_bind,
    Option.bind_some, List.foldlM_cons, hcolon, Option.bind_eq_bind, Option.bind_some, h]
  rfl

section

variable {α : Type} {scan : α → List Token} {tree : α → Tree} (key : α → Bytes)

/-- The fields of an object that holds some already, and its end. -/
theorem fields (part : α) (parts : List α)
    (h : ∀ other ∈ part :: parts, Builds (scan other) (tree other)) (seen : List (Bytes × Tree))
    (stack : List Tree.Open) (rest : List Token) :
    ([.comma].intercalate
        ((part :: parts).map fun part => .string (key part) :: .colon :: scan part)
          ++ .closeObject :: rest).foldlM Tree.step (.fieldComma seen stack) =
      rest.foldlM Tree.step (Tree.fill stack
        (.object (seen.reverse ++ (part :: parts).map fun part => (key part, tree part)))) := by
  induction parts generalizing part seen with
  | nil =>
    rw [List.map_singleton, List.intercalate_singleton, (h part List.mem_cons_self).field,
      List.foldlM_cons]
    simp [Tree.step]
  | cons next parts ih =>
    have hrest := ih next fun other hother => h other (List.mem_cons_of_mem _ hother)
    have hstep (seen : List (Bytes × Tree)) : Tree.step (.field seen stack) .comma =
        some (.fieldComma seen stack) := rfl
    simp only [List.map_cons] at hrest ⊢
    rw [List.intercalate_cons_cons, List.append_assoc, List.append_assoc,
      (h part List.mem_cons_self).field, List.singleton_append, List.foldlM_cons, hstep,
      Option.bind_eq_bind, Option.bind_some, hrest, List.reverse_cons, List.append_assoc,
      List.singleton_append]

/-- Where every part is built from its own tokens, an object is built from a brace, the keys and the
tokens of the parts, and a brace. -/
theorem object {parts : List α} (h : ∀ part ∈ parts, Builds (scan part) (tree part)) :
    Builds (.openObject :: ([.comma].intercalate
        (parts.map fun part => .string (key part) :: .colon :: scan part) ++ [.closeObject]))
      (.object (parts.map fun part => (key part, tree part))) := by
  intro stack rest
  have hopen : Tree.step (.value stack) .openObject = some (.objectOpened stack) := rfl
  rw [List.cons_append, List.append_assoc, List.singleton_append, List.foldlM_cons, hopen,
    Option.bind_eq_bind, Option.bind_some]
  cases parts with
  | nil => rfl
  | cons part parts =>
    have hrest := Builds.fields key part parts h [] stack rest
    rw [List.reverse_nil, List.nil_append] at hrest
    rw [← hrest]
    -- For a key, an opened object is as good as a comma.
    cases parts <;> rfl

end

end Builds

/-- The tokens of a value build its tree. -/
theorem Writable.builds {depth : Nat} {v : Value} (h : Writable depth v) :
    Builds v.tokens v.tree := by
  induction h with
  | null | bool _ | natural _ | string _ =>
    rw [Value.tokens, Value.tree]
    exact .single fun _ => rfl
  | array _ ih =>
    rw [Value.tokens, Value.tree]
    exact .array ih
  | object _ ih =>
    rw [Value.tokens, Value.tree]
    exact .object _ ih

/-! ### What the tree means -/

/-- The tree of a value means the value. -/
theorem Writable.value?_tree {depth : Nat} {v : Value} (h : Writable depth v) :
    v.tree.value? depth = some v := by
  induction h with
  | @null depth | @bool depth _ =>
    rw [Value.tree]
    cases depth <;> rfl
  | @natural depth n h =>
    have hscalar : (Tree.number (.ofNat n)).scalar? = some (.number (.ofNat n)) :=
      if_pos (Number.inRange_ofNat h)
    rw [Value.tree]
    cases depth <;> exact hscalar
  | @string depth s =>
    have hscalar : (Tree.string (escape s)).scalar? = some (.string s) := by
      rw [Tree.scalar?, unescape?_escape, Option.map_some]
    rw [Value.tree]
    cases depth <;> exact hscalar
  | array _ ih =>
    rw [Value.tree, Tree.value?, mapM_map_of_inverse ih, Option.map_some]
  | object _ ih =>
    rw [Value.tree, Tree.value?, mapM_map_of_inverse, Option.map_some]
    intro field hfield
    dsimp only
    rw [unescape?_escape, ih field hfield]
    rfl

/-! ### Reading what was written -/

variable {depth : Nat} {v : Value}

/-- A value that can be written is read back from its text as the tree it stands for, since its
tokens are those that build this tree. -/
theorem Tree.parse?_print (h : Writable depth v) : Tree.parse? v.print = some v.tree := by
  have hscan : Token.scan? v.print = some v.tokens := by
    have := h.scans [] [] breaks_nil
    rwa [List.append_nil, List.append_nil, ← Utf8.encode_ofList, Token.scanFrom,
      List.reverse_reverse] at this
  have hbuild := h.builds [] []
  rw [List.append_nil] at hbuild
  rw [Tree.parse?, hscan, Option.bind_some, Tree.ofTokens?, hbuild]
  rfl

/-- What was written is read. -/
theorem Value.parse?_print (h : Writable maxDepth v) : Value.parse? v.print = some v := by
  rw [Value.parse?, Tree.parse?_print h, Option.bind_some, h.value?_tree]

/-- No control byte is written. -/
theorem Writable.graphic (h : Writable depth v) : Graphic v.printChars := by
  have hcomma : Graphic [','] := by decide
  have hcolon : Graphic [':'] := by decide
  induction h with
  | null => decide
  | bool b => cases b <;> decide
  | @natural depth n _ =>
    rw [Value.printChars, Number.printChars_ofNat]
    intro c hc b hb
    have hdigit := isDigit_of_mem_flatMap_toDigits (List.mem_flatMap.mpr ⟨c, hc, hb⟩)
    simp only [Bytes.isDigit, Bool.and_eq_true, decide_eq_true_eq] at hdigit
    exact UInt8.le_trans (by decide) hdigit.1
  | string s =>
    rw [Value.printChars]
    exact graphic_quote s
  | array _ ih =>
    have hopen : Graphic ['['] := by decide
    have hclose : Graphic [']'] := by decide
    rw [Value.printChars, printItems_eq]
    exact hopen.append ((Graphic.intercalate hcomma (List.forall_mem_map.mpr ih)).append hclose)
  | object _ ih =>
    have hopen : Graphic ['\x7b'] := by decide
    have hclose : Graphic ['\x7d'] := by decide
    rw [Value.printChars, printFields_eq]
    have hfields := Graphic.intercalate hcomma (List.forall_mem_map.mpr fun field hfield =>
      (graphic_quote field.1).append (hcolon.append (ih field hfield)))
    exact hopen.append (hfields.append hclose)

/-- No control byte is in the text of a value that can be written, so none of them can be taken for
the end of a line. -/
theorem Writable.le_of_mem_print (h : Writable depth v) {b : UInt8} (hb : b ∈ v.print) :
    0x20 ≤ b := by
  rw [Value.print, Utf8.encode_ofList] at hb
  obtain ⟨c, hc, hb⟩ := List.mem_flatMap.mp hb
  exact h.graphic c hc b hb

end ReverseTunnel.Json
