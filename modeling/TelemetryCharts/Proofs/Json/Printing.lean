import Mathlib.Data.List.Forall2
import TelemetryCharts.Json.Printer
import TelemetryCharts.Proofs.Json.Scanning

/-!
# Reading printed values back

A printed value is read back as the same value, in every layout that puts only blanks between
tokens. The reader is followed through a text one token at a time: from a state in which a value
may come next, the text of the value leads to the state in which that value has been read.
-/

namespace TelemetryCharts.Json

open Decimal

/-- Says that a value can be printed: its numbers are canonical, and its strings and the names of
its members hold what may stand between quotes. -/
inductive Value.Printable : Value → Prop
  | null : Printable .null
  | boolean (b : Bool) : Printable (.boolean b)
  | number {n : Numeral} (hn : n.Canonical) : Printable (.number n)
  | string {raw : List Char} (hraw : IsContent raw) : Printable (.string raw)
  | array {items : List Value} (hitems : ∀ v ∈ items, Printable v) : Printable (.array items)
  | object {members : List (List Char × Value)} (hnames : ∀ m ∈ members, IsContent m.1)
      (hvalues : ∀ m ∈ members, Printable m.2) : Printable (.object members)

/-- Says that a style puts only blanks between tokens. -/
structure Style.Blank (style : Style) : Prop where
  lineBreak : ∀ depth, ∀ c ∈ style.lineBreak depth, isBlank c = true
  afterColon : ∀ c ∈ style.afterColon, isBlank c = true

theorem Style.blank_pretty : Style.pretty.Blank := by
  refine ⟨fun depth c hc => ?_, by simp [pretty, isBlank]⟩
  simp only [pretty, List.mem_cons, List.mem_replicate] at hc
  rcases hc with rfl | ⟨-, rfl⟩ <;> rfl

theorem Style.blank_compact : Style.compact.Blank :=
  ⟨fun _ _ hc => absurd hc List.not_mem_nil, fun _ hc => absurd hc List.not_mem_nil⟩

/-- The state of the reader after a text, if it gets that far. -/
def Reading.after (r : Reading) (cs : List Char) : Option Reading :=
  (scan cs).bind fun tokens => tokens.foldlM Reading.next r

namespace Reading

theorem after_nil (r : Reading) : r.after [] = some r := by
  rw [after, scan]
  rfl

/-- The reader passes over a blank. -/
theorem after_blank (r : Reading) {c : Char} (hc : isBlank c = true) (rest : List Char) :
    r.after (c :: rest) = r.after rest := by
  rw [after, scan, if_pos hc, after]

theorem after_blanks (r : Reading) {blanks : List Char} (hblanks : ∀ c ∈ blanks, isBlank c = true)
    (rest : List Char) : r.after (blanks ++ rest) = r.after rest := by
  induction blanks with
  | nil => rfl
  | cons c blanks ih =>
    rw [List.cons_append, r.after_blank (hblanks c (by simp)),
      ih fun d hd => hblanks d (List.mem_cons_of_mem c hd)]

/-- One token takes the reader one step further. -/
theorem after_token {r next : Reading} {t : Token} {c : Char} {cs rest : List Char}
    (hblank : isBlank c = false) (hscan : scanToken (c :: cs) = some (t, rest))
    (hnext : r.next t = some next) : r.after (c :: cs) = next.after rest := by
  have htokens : scan (c :: cs) = (scan rest).map (t :: ·) := by
    rw [scan, if_neg (by simp [hblank])]
    split
    · next hnone => cases hnone.symm.trans hscan
    · next hsome =>
      cases hsome.symm.trans hscan
      rfl
  rw [after, htokens, after]
  cases scan rest with
  | none => rfl
  | some tokens =>
    simp only [Option.map_some, Option.bind_some, List.foldlM_cons, hnext, Option.bind_eq_bind]

/-- Says that a value may come next in a state, inside of what is open on a stack. -/
def Expects (r : Reading) (stack : List Enclosing) : Prop :=
  ∀ t, t ≠ .endArray → r.next t = begin stack t

theorem expects_value (stack : List Enclosing) : (value stack).Expects stack :=
  fun _ _ => rfl

theorem expects_firstItem (stack : List Enclosing) :
    (firstItem stack).Expects (.array [] :: stack) := by
  intro t ht
  cases t <;> first | rfl | exact absurd rfl ht

/-- Says that a member may come next in a state, after the given ones. -/
def ExpectsMember (r : Reading) (done : List (List Char × Value)) (stack : List Enclosing) : Prop :=
  ∀ name, r.next (.string name) = some (.colon done name stack)

theorem expectsMember_firstMember (stack : List Enclosing) :
    (firstMember stack).ExpectsMember [] stack :=
  fun _ => rfl

theorem expectsMember_member (done : List (List Char × Value)) (stack : List Enclosing) :
    (member done stack).ExpectsMember done stack :=
  fun _ => rfl

theorem after_string {r next : Reading} {raw : List Char} (hraw : IsContent raw)
    (hnext : r.next (.string raw) = some next) (rest : List Char) :
    r.after (inQuotes raw ++ rest) = next.after rest := by
  refine after_token (t := .string raw) rfl ?_ hnext
  have hscan := hraw rest
  rw [← List.singleton_append, ← List.append_assoc] at hscan
  change (scanString (raw ++ ['"'] ++ rest)).map _ = _
  rw [hscan]
  rfl

end Reading

theorem endsNumeral_of_blanks {blanks : List Char} (hblanks : ∀ c ∈ blanks, isBlank c = true)
    {rest : List Char} (hrest : EndsNumeral rest) : EndsNumeral (blanks ++ rest) := by
  cases blanks with
  | nil => exact hrest
  | cons c blanks =>
    intro d hd
    cases hd
    have hblank := hblanks c (by simp)
    simp only [isBlank, Bool.or_eq_true, decide_eq_true_eq] at hblank
    rcases hblank with ((rfl | rfl) | rfl) | rfl <;> decide

theorem endsNumeral_cons {c : Char} (hc : c ∈ [',', ']', '\x7d']) (rest : List Char) :
    EndsNumeral (c :: rest) := by
  intro d hd
  cases hd
  simp only [List.mem_cons, List.not_mem_nil, or_false] at hc
  rcases hc with rfl | rfl | rfl <;> decide

/-- Says that the reader gets through a text of a member wherever the member may stand. -/
def ReadsMember (text : List Char) (m : List Char × Value) : Prop :=
  ∀ {r : Reading} {done : List (List Char × Value)} {stack : List Enclosing},
    r.ExpectsMember done stack → ∀ {rest : List Char}, EndsNumeral rest →
      r.after (text ++ rest) = (Reading.rest m.2 (.object done m.1 :: stack)).after rest

/-- The reader gets through the members of an object that has been begun. -/
theorem after_members {texts : List (List Char)} {members : List (List Char × Value)}
    (h : List.Forall₂ ReadsMember texts members) (hne : members ≠ []) {r : Reading}
    {done : List (List Char × Value)} {stack : List Enclosing} (hr : r.ExpectsMember done stack)
    {blanks : List Char} (hblanks : ∀ c ∈ blanks, isBlank c = true) (rest : List Char) :
    r.after (commaSeparated texts ++ (blanks ++ '\x7d' :: rest)) =
      (Reading.rest (.object (done.reverse ++ members)) stack).after rest := by
  induction h generalizing r done with
  | nil => exact absurd rfl hne
  | @cons text m texts members hm hmembers ih =>
    cases hmembers with
    | nil =>
      have hrest := endsNumeral_of_blanks hblanks (endsNumeral_cons (c := '\x7d') (by simp) rest)
      rw [commaSeparated, hm hr hrest, Reading.after_blanks _ hblanks,
        Reading.after_token (t := .endObject) rfl (by rw [scanToken]) rfl, List.reverse_cons]
    | @cons text' m' texts members hm' hmembers =>
      have hrec := ih (by simp) (Reading.expectsMember_member (m :: done) stack)
      rw [commaSeparated, List.append_assoc, List.cons_append,
        hm hr (endsNumeral_cons (by simp) _),
        Reading.after_token (t := .comma) rfl (by rw [scanToken]) rfl, hrec]
      · simp
      · simp

section
variable {style : Style}

/-- Says that the reader gets through the text of a value wherever the value may stand. -/
def Value.Legible (style : Style) (v : Value) : Prop :=
  ∀ {r : Reading} {stack : List Enclosing}, r.Expects stack → ∀ (depth : ℕ) {rest : List Char},
    EndsNumeral rest →
      r.after (v.render style depth ++ rest) = (Reading.rest v stack).after rest

/-- The reader gets through the items of an array that has been begun. -/
theorem after_items (hstyle : style.Blank) {items : List Value}
    (hitems : ∀ v ∈ items, v.Legible style) (hne : items ≠ []) {r : Reading} {done : List Value}
    {stack : List Enclosing} (hr : r.Expects (.array done :: stack)) (depth : ℕ)
    (rest : List Char) :
    r.after (commaSeparated (renderItems style (depth + 1) items) ++
        (style.lineBreak depth ++ ']' :: rest)) =
      (Reading.rest (.array (done.reverse ++ items)) stack).after rest := by
  induction items generalizing r done with
  | nil => exact absurd rfl hne
  | cons v items ih =>
    have hv : v.Legible style := hitems v (by simp)
    cases items with
    | nil =>
      have hrest := endsNumeral_of_blanks (hstyle.lineBreak depth)
        (endsNumeral_cons (c := ']') (by simp) rest)
      simp only [renderItems, commaSeparated, List.append_assoc]
      rw [Reading.after_blanks _ (hstyle.lineBreak _), hv hr _ hrest,
        Reading.after_blanks _ (hstyle.lineBreak _),
        Reading.after_token (t := .endArray) rfl (by rw [scanToken]) rfl, List.reverse_cons]
    | cons w items =>
      have hrec := ih (fun u hu => hitems u (List.mem_cons_of_mem v hu)) (by simp)
        (Reading.expects_value (.array (v :: done) :: stack))
      simp only [renderItems, commaSeparated, List.append_assoc, List.cons_append] at hrec ⊢
      rw [Reading.after_blanks _ (hstyle.lineBreak _),
        hv hr _ (endsNumeral_cons (by simp) _),
        Reading.after_token (t := .comma) rfl (by rw [scanToken]) rfl, hrec]
      simp

theorem renderMembers_eq_map (style : Style) (depth : ℕ) (members : List (List Char × Value)) :
    renderMembers style depth members = members.map fun m =>
      style.lineBreak depth ++ inQuotes m.1 ++ ':' :: style.afterColon ++ m.2.render style depth := by
  induction members with
  | nil => rw [renderMembers, List.map_nil]
  | cons m members ih => rw [renderMembers, ih, List.map_cons]

theorem readsMember_render (hstyle : style.Blank) {m : List Char × Value} (hname : IsContent m.1)
    (hvalue : m.2.Legible style) (depth : ℕ) :
    ReadsMember (style.lineBreak depth ++ inQuotes m.1 ++ ':' :: style.afterColon ++
      m.2.render style depth) m := by
  intro r done stack hr rest hrest
  simp only [List.append_assoc, List.cons_append]
  rw [Reading.after_blanks _ (hstyle.lineBreak _), Reading.after_string hname (hr m.1),
    Reading.after_token (t := .colon) rfl (by rw [scanToken]) rfl,
    Reading.after_blanks _ hstyle.afterColon, hvalue (Reading.expects_value _) _ hrest]

/-- The reader gets through the text of a value that can be printed. -/
theorem Value.Printable.legible (hstyle : style.Blank) {v : Value} (hv : v.Printable) :
    v.Legible style := by
  intro r stack hr depth rest hrest
  induction hv generalizing r stack depth rest with
  | null =>
    rw [render]
    exact Reading.after_token (t := .null) rfl (by simp [scanToken]) (hr _ (by simp))
  | boolean b =>
    cases b <;> rw [render]
    · exact Reading.after_token (t := .boolean false) rfl (by simp [scanToken]) (hr _ (by simp))
    · exact Reading.after_token (t := .boolean true) rfl (by simp [scanToken]) (hr _ (by simp))
  | number hn =>
    obtain ⟨c, cs, hcons, hc⟩ := exists_render_eq_cons hn
    obtain ⟨hblank, hscan⟩ := scanToken_of_numeral hc (cs ++ rest)
    rw [← List.cons_append, ← hcons, scanNumeral_render hn hrest] at hscan
    rw [render]
    rw [hcons] at hscan ⊢
    exact Reading.after_token hblank hscan (hr _ (by simp))
  | string hraw =>
    rw [render]
    exact Reading.after_string hraw (hr _ (by simp)) rest
  | @array items _ ih =>
    cases items with
    | nil =>
      rw [render, List.cons_append, List.singleton_append,
        Reading.after_token (t := .beginArray) rfl (by rw [scanToken]) (hr _ (by simp)),
        Reading.after_token (t := .endArray) rfl (by rw [scanToken]) rfl]
    | cons v items =>
      simp only [render, List.cons_append, List.append_assoc, List.nil_append]
      rw [Reading.after_token (t := .beginArray) rfl (by rw [scanToken]) (hr _ (by simp)),
        after_items hstyle (fun v hv => ih v hv) (by simp) (Reading.expects_firstItem stack)]
      rfl
  | @object members hnames _ ih =>
    cases members with
    | nil =>
      rw [render, List.cons_append, List.singleton_append,
        Reading.after_token (t := .beginObject) rfl (by rw [scanToken]) (hr _ (by simp)),
        Reading.after_token (t := .endObject) rfl (by rw [scanToken]) rfl]
    | cons m members =>
      simp only [render, List.cons_append, List.append_assoc, List.nil_append]
      have hmembers : List.Forall₂ ReadsMember (renderMembers style (depth + 1) (m :: members))
          (m :: members) := by
        rw [renderMembers_eq_map, List.forall₂_map_left_iff, List.forall₂_same]
        exact fun n hn => readsMember_render hstyle (hnames n hn) (fun hr => ih n hn hr) (depth + 1)
      rw [Reading.after_token (t := .beginObject) rfl (by rw [scanToken]) (hr _ (by simp)),
        after_members hmembers (by simp) (Reading.expectsMember_firstMember stack)
          (hstyle.lineBreak depth)]
      rfl

end

/-- A text is that of a value if the reader gets through it with that value. -/
theorem Value.parse_of_after {cs : List Char} {v : Value}
    (h : (Reading.value []).after cs = some (.rest v [])) : Value.parse cs = some v := by
  obtain ⟨tokens, hscan, hfold⟩ := Option.bind_eq_some_iff.1 h
  simp only [parse, hscan, hfold, Option.bind_eq_bind, Option.bind_some, Reading.finish]

/-- A printed value is read back as itself. -/
theorem Value.parse_render {style : Style} (hstyle : style.Blank) {v : Value} (hv : v.Printable)
    (depth : ℕ) : Value.parse (v.render style depth) = some v := by
  have hend : EndsNumeral [] := by simp [EndsNumeral]
  have hafter := hv.legible hstyle (Reading.expects_value []) depth hend
  rw [List.append_nil, Reading.after_nil] at hafter
  exact parse_of_after hafter

end TelemetryCharts.Json
