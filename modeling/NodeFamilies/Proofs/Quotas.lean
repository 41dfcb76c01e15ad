import NodeFamilies.Rendering
import NodeFamilies.Writing

/-!
# A writer with a limit keeps a prefix

Items are written one after the other to a writer that holds so many bytes and no more. Whatever
happens on the way, it ends up with the first bytes of all that was to be written.
-/

namespace NodeFamilies

namespace Quota

/-! ## Single writes -/

/-- What a single write comes to. -/
inductive Reply where
  | took (count : Nat)
  | failed
  deriving DecidableEq, Repr

/-- One write: as much is taken as fits. Where nothing fits, a failing writer fails at any byte. -/
def offer (q : Quota) (data : Bytes) : Quota × Reply :=
  if data ≠ [] ∧ q.room data.length = 0 ∧ q.refusal = .failing then (q, .failed)
  else ({ q with held := q.held ++ data.take (q.room data.length) }, .took (q.room data.length))

/-- Writes what is left again and again, until a write fails or takes nothing of it. -/
def insist (q : Quota) (data : Bytes) : Written Quota Refusal :=
  if data = [] then (q, none)
  else match q.offer data with
    | (q, .failed) => (q, some .failing)
    | (q, .took 0) => (q, some .takingNone)
    | (q, .took (count + 1)) => q.insist (data.drop (count + 1))
termination_by data.length
decreasing_by
  have := List.length_pos_iff.mpr ‹data ≠ []›
  simp
  omega

variable {q q' : Quota} {data : Bytes}

theorem room_le (q : Quota) (count : Nat) : q.room count ≤ count := by
  unfold room
  split
  · exact Nat.le_refl _
  · exact Nat.min_le_left _ _

theorem room_drop (q : Quota) (data : Bytes) :
    Quota.room { q with held := q.held ++ data.take (q.room data.length) }
      (data.drop (q.room data.length)).length = 0 := by
  unfold room
  cases q.limit with
  | none => simp
  | some limit => simp; omega

theorem put_nil (q : Quota) : q.put [] = (q, none) := by
  have hroom : q.room 0 = 0 := Nat.le_zero.mp (q.room_le 0)
  simp [put, hroom]

theorem put_of_room_eq_zero (hd : data ≠ []) (h : q.room data.length = 0) :
    q.put data = (q, some q.refusal) := by
  have hpos : 0 < data.length := List.length_pos_iff.mpr hd
  simp [put, h, hpos]

theorem put_eq_put_drop (q : Quota) (data : Bytes) :
    q.put data = Quota.put { q with held := q.held ++ data.take (q.room data.length) }
      (data.drop (q.room data.length)) := by
  -- A piece can be put in two parts, the first being what fits.
  have hrest := q.room_drop data
  unfold put
  simp only [hrest]
  simp only [List.take_zero, List.append_nil, List.length_drop, Nat.sub_pos_iff_lt]

theorem offer_eq_failed (h : q.offer data = (q', .failed)) :
    q' = q ∧ q.room data.length = 0 ∧ q.refusal = .failing := by
  unfold offer at h
  split at h
  · rename_i hfails
    exact ⟨(congrArg Prod.fst h).symm, hfails.2⟩
  · cases h

theorem offer_eq_took {count : Nat} (hd : data ≠ []) (h : q.offer data = (q', .took count)) :
    q' = { q with held := q.held ++ data.take count } ∧ q.room data.length = count ∧
      (count = 0 → q.refusal = .takingNone) := by
  unfold offer at h
  split at h
  · cases h
  · rename_i htakes
    obtain ⟨rfl, hcount⟩ := Prod.mk.inj h
    obtain rfl := Reply.took.inj hcount
    refine ⟨rfl, rfl, fun hzero => ?_⟩
    cases hr : q.refusal with
    | failing => exact absurd ⟨hd, hzero, hr⟩ htakes
    | takingNone => rfl

/-- Whoever insists gets in as much of a piece as the quota has room for. -/
theorem insist_eq_put (q : Quota) (data : Bytes) : q.insist data = q.put data := by
  fun_induction insist q data with
  | case1 q => rw [put_nil]
  | case2 q data hd q' h =>
    obtain ⟨rfl, hroom, hr⟩ := offer_eq_failed h
    rw [put_of_room_eq_zero hd hroom, hr]
  | case3 q data hd q' h =>
    obtain ⟨rfl, hroom, hr⟩ := offer_eq_took hd h
    rw [put_of_room_eq_zero hd hroom, ← hr rfl]
    simp
  | case4 q data hd q' count h ih =>
    obtain ⟨rfl, hroom, -⟩ := offer_eq_took hd h
    rw [ih, q.put_eq_put_drop data, hroom]

theorem write_eq_insist (q : Quota) (pieces : List String) :
    q.write pieces = writeAll insist q (pieces.map Text.utf8) := by
  have h : insist = put := by
    funext q data
    exact q.insist_eq_put data
  rw [write, h]

/-! ## Pieces -/

/-- A writer to which the text was handed: it holds all of it, or is out of room. -/
def after (limit : Nat) (refusal : Refusal) (text : Bytes) : Quota :=
  ⟨some limit, refusal, text.take limit⟩

variable {limit : Nat} {refusal : Refusal}

/-- Whether further bytes fit behind a text. Nothing always does. -/
def answer (limit : Nat) (refusal : Refusal) (text data : Bytes) : Option Refusal :=
  if data = [] ∨ (text ++ data).length ≤ limit then none else some refusal

theorem put_after (text data : Bytes) :
    (after limit refusal text).put data =
      (after limit refusal (text ++ data), answer limit refusal text data) := by
  have hroom : (after limit refusal text).room data.length =
      min data.length (limit - text.length) := by
    simp [after, room]
    omega
  have hfits : min data.length (limit - text.length) < data.length ↔
      ¬ (data = [] ∨ (text ++ data).length ≤ limit) := by
    rw [← List.length_eq_zero_iff, List.length_append]
    omega
  have hheld : text.take limit ++ data.take (min data.length (limit - text.length)) =
      (text ++ data).take limit := by
    rw [List.take_append, Nat.min_comm, ← List.take_take, List.take_length]
  unfold put answer
  rw [hroom]
  simp only [hfits, ite_not]
  simp [after, hheld]

theorem answer_nil (text : Bytes) : answer limit refusal text [] = none := if_pos (Or.inl rfl)

theorem answer_of_le {text data : Bytes} (h : (text ++ data).length ≤ limit) :
    answer limit refusal text data = none :=
  if_pos (Or.inr h)

theorem answer_of_lt {text data : Bytes} (hd : data ≠ []) (h : limit < (text ++ data).length) :
    answer limit refusal text data = some refusal := by
  apply if_neg
  rintro (hnil | hfits)
  · exact hd hnil
  · omega

theorem after_append_of_lt {text : Bytes} (h : limit < text.length) (data : Bytes) :
    after limit refusal (text ++ data) = after limit refusal text := by
  rw [after, after, List.take_append_of_le_length (by omega)]

theorem writeAll_put_after (text : Bytes) (pieces : List Bytes) :
    writeAll put (after limit refusal text) pieces =
      (after limit refusal (text ++ pieces.flatten),
        answer limit refusal text pieces.flatten) := by
  -- Once a piece has been refused, nothing that comes later gets in.
  induction pieces generalizing text with
  | nil => simp [writeAll, answer_nil]
  | cons piece pieces ih =>
    rw [writeAll, put_after, List.flatten_cons, ← List.append_assoc]
    by_cases hp : piece = []
    · subst hp
      rw [answer_nil]
      simpa using ih text
    by_cases hfits : (text ++ piece).length ≤ limit
    · rw [answer_of_le hfits]
      dsimp only
      rw [ih]
      congr 1
      by_cases hrest : pieces.flatten = []
      · rw [hrest, List.append_nil, answer_nil, answer_of_le hfits]
      · simp [answer, hp, hrest]
    · have hlong : limit < (text ++ piece).length := by omega
      have hne : piece ++ pieces.flatten ≠ [] := by simp [hp]
      have hlonger : limit < (text ++ (piece ++ pieces.flatten)).length := by
        simp only [List.length_append] at hlong ⊢
        omega
      rw [answer_of_lt hp hlong, answer_of_lt hne hlonger, after_append_of_lt hlong]

/-! ## Items -/

end Quota

/-- The bytes of the items in a row. -/
def Item.bytes (items : List Item) : Bytes := Text.utf8 (String.join (items.map Item.text))

theorem Item.utf8_text (i : Item) : Text.utf8 i.text = (i.pieces.map Text.utf8).flatten := by
  rw [Item.text, Text.utf8_join]

theorem Item.bytes_nil : Item.bytes [] = [] := rfl

theorem Item.bytes_cons (i : Item) (items : List Item) :
    Item.bytes (i :: items) = Text.utf8 i.text ++ Item.bytes items := by
  rw [Item.bytes, List.map_cons, String.join_cons, Text.utf8_append]
  rfl

theorem Item.utf8_text_ne_nil (i : Item) : Text.utf8 i.text ≠ [] := by
  have hpiece : ∃ piece ∈ i.pieces, Text.utf8 piece ≠ [] := by
    cases i with
    | prelude scanner => exact ⟨"use ", by simp [Item.pieces, preludePieces], by decide⟩
    | root r => exact ⟨"\n", by simp [Item.pieces, Root.pieces], by decide⟩
    | family f =>
      exact ⟨"\n", by simp [Item.pieces, Family.pieces, Family.unionPieces], by decide⟩
    | all g => exact ⟨"use ", by simp [Item.pieces, Grammar.pieces, preludePieces], by decide⟩
  obtain ⟨piece, hmem, hne⟩ := hpiece
  intro h
  rw [i.utf8_text, List.flatten_eq_nil_iff] at h
  exact hne (h _ (List.mem_map_of_mem hmem))

namespace Quota

variable {limit : Nat} {refusal : Refusal}

/-- Writes items one after the other, whatever comes of them. Each answer stands beside the writer as
it is then. -/
def writeItems (q : Quota) : List Item → List (Written Quota Refusal)
  | [] => []
  | i :: items => q.write i.pieces :: (q.write i.pieces).1.writeItems items

theorem write_after (text : Bytes) (i : Item) :
    (after limit refusal text).write i.pieces =
      (after limit refusal (text ++ Text.utf8 i.text),
        if (text ++ Text.utf8 i.text).length ≤ limit then none else some refusal) := by
  rw [write, writeAll_put_after, ← i.utf8_text]
  simp [answer, i.utf8_text_ne_nil]

theorem writeItems_after (text : Bytes) (items : List Item) :
    (after limit refusal text).writeItems items =
      (List.range items.length).map fun k =>
        (after limit refusal (text ++ Item.bytes (items.take (k + 1))),
          if (text ++ Item.bytes (items.take (k + 1))).length ≤ limit then none
          else some refusal) := by
  induction items generalizing text with
  | nil => rfl
  | cons i items ih =>
    rw [writeItems, write_after, ih, List.length_cons, List.range_succ_eq_map, List.map_cons,
      List.map_map]
    simp [Item.bytes_nil, Item.bytes_cons, Function.comp_def]

end Quota

/-! ## The items of a module -/

theorem join_family_pieces (fs : List Family) :
    String.join (fs.flatMap Family.pieces) =
      String.join (fs.map fun f => (Item.family f).text) := by
  induction fs with
  | nil => rfl
  | cons f fs ih =>
    rw [List.flatMap_cons, String.join_append, ih, List.map_cons, String.join_cons]
    rfl

theorem Grammar.render_eq_items (g : Grammar) :
    g.render = (Item.prelude g.scanner).text ++ (Item.root g.root).text ++
      String.join (g.families.map fun f => (Item.family f).text) := by
  rw [Grammar.render, Grammar.pieces, String.join_append, String.join_append, join_family_pieces]
  rfl

namespace Quota

/-- After every call the writer holds as many first bytes of the texts so far as it may, and the
call has succeeded if that is all of them. To write a piece is to write what is left of it again and
again. -/
theorem writeItems_keeps_prefix (limit : Nat) (refusal : Refusal) (items : List Item) :
    (∀ (q : Quota) (pieces : List String),
      q.write pieces = writeAll insist q (pieces.map Text.utf8)) ∧
    Quota.writeItems ⟨some limit, refusal, []⟩ items =
      (List.range items.length).map (fun k =>
        (⟨some limit, refusal, (Item.bytes (items.take (k + 1))).take limit⟩,
          if (Item.bytes (items.take (k + 1))).length ≤ limit then none else some refusal)) ∧
    ∀ g : Grammar, (Item.all g).text = g.render ∧
      g.render = (Item.prelude g.scanner).text ++ (Item.root g.root).text ++
        String.join (g.families.map fun f => (Item.family f).text) := by
  refine ⟨write_eq_insist, ?_, fun g => ⟨rfl, g.render_eq_items⟩⟩
  have hstart : (⟨some limit, refusal, []⟩ : Quota) = after limit refusal [] := by
    rw [after, List.take_nil]
  rw [hstart, writeItems_after]
  simp only [List.nil_append]
  rfl

end Quota

end NodeFamilies
