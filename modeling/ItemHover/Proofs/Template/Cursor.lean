import ItemHover.Proofs.Template.Scan
import ItemHover.Proofs.Text.Slice

/-!
# The scan at offsets

The scan also reads a text where it is, at two offsets: where the literal text begins that has not come out
yet, and where it reads on. Each slice that it takes is checked. No slice is ever refused, every round reads
at least the bytes of an opener, and the segments are the same.
-/

namespace ItemHover.Template

open Text (BadSlice IsBoundary find? size slice)

/-! ## Rounds -/

/-- A segment whose texts are slices. -/
inductive Piece where
  | literal (text : String)
  | token (raw name : String) (args : Option String)
  deriving DecidableEq, Repr

def Piece.text : Piece → String
  | literal s => s
  | token raw _ _ => raw

def Segment.piece : Segment → Piece
  | literal s => .literal (.ofList s)
  | token t => .token (.ofList t.text) (.ofList t.name) (t.argument.map .ofList)

/-- Where the literal text begins that has not come out, and where the scan reads on. -/
structure Cursor where
  literalStart : Nat
  pos : Nat
  deriving DecidableEq, Repr

inductive Outcome where
  | unopened
  | unclosed
  | next (out : List Piece) (c : Cursor)
  deriving DecidableEq, Repr

def parseBody (body : String) : Except BadSlice (Option (String × Option String)) :=
  match find? ['('] body with
  | none => return if isName body.toList then some (body, none) else none
  | some paren => do
    let rest ← slice body (paren + 1) body.utf8ByteSize
    match closed? rest.toList with
    | none => return none
    | some args =>
      let name ← slice body 0 paren
      return if isName name.toList then some (name, some (.ofList args)) else none

def parse (body : String) : Except BadSlice (Option (String × Option String)) :=
  if (find? opener body).isSome then return none else parseBody body

def literalBetween (text : String) (start stop : Nat) : Except BadSlice (List Piece) :=
  if start < stop then do return [.literal (← slice text start stop)] else return []

/-- What a round settles between an opener and the closer behind it. -/
def settle (text : String) (literalStart start close : Nat) : Except BadSlice Outcome := do
  let bodyStart := start + size opener
  let stop := close + size closer
  let body ← slice text bodyStart close
  match ← parse body with
  | none => return .next [] ⟨literalStart, bodyStart⟩
  | some (name, args) =>
    let literal ← literalBetween text literalStart start
    let raw ← slice text start stop
    return .next (literal ++ [.token raw name args]) ⟨stop, stop⟩

def round (text : String) (c : Cursor) : Except BadSlice Outcome := do
  let rest ← slice text c.pos text.utf8ByteSize
  match find? opener rest with
  | none => return .unopened
  | some rel =>
    let start := c.pos + rel
    let bodyStart := start + size opener
    let inner ← slice text bodyStart text.utf8ByteSize
    match find? closer inner with
    | none => return .unclosed
    | some closeRel => settle text c.literalStart start (bodyStart + closeRel)

theorem opener_ne_nil : opener ≠ [] := List.cons_ne_nil _ _

theorem closer_ne_nil : closer ≠ [] := List.cons_ne_nil _ _

theorem size_opener : size opener = 2 := by decide

theorem size_closer : size closer = 2 := by decide

theorem bind_eq_ok {α β : Type} {x : Except BadSlice α} {f : α → Except BadSlice β} {r : β} :
    x >>= f = .ok r ↔ ∃ a, x = .ok a ∧ f a = .ok r := by
  cases x <;> simp [bind, Except.bind]

variable {text : String} {c c' : Cursor} {out : List Piece}

theorem pos_of_settle {literalStart start close : Nat} (hclose : start + 2 ≤ close)
    (h : settle text literalStart start close = .ok (.next out c')) :
    start + 2 ≤ c'.pos ∧ c'.pos ≤ text.utf8ByteSize := by
  obtain ⟨body, hbody, h⟩ := bind_eq_ok.1 h
  have hbody := Text.le_of_slice hbody
  obtain ⟨parsed, -, h⟩ := bind_eq_ok.1 h
  simp only [size_opener, size_closer] at h hbody
  split at h
  · cases h
    exact ⟨Nat.le_refl _, Nat.le_trans hbody.1 hbody.2⟩
  · obtain ⟨literal, -, h⟩ := bind_eq_ok.1 h
    obtain ⟨raw, hraw, h⟩ := bind_eq_ok.1 h
    have hraw := Text.le_of_slice hraw
    cases h
    exact ⟨by simp only; omega, hraw.2⟩

/-- A round that goes on reads the bytes of an opener, and stays within the text. -/
theorem pos_of_round (h : round text c = .ok (.next out c')) :
    c.pos + 2 ≤ c'.pos ∧ c'.pos ≤ text.utf8ByteSize := by
  obtain ⟨rest, -, h⟩ := bind_eq_ok.1 h
  split at h
  · cases h
  · obtain ⟨inner, -, h⟩ := bind_eq_ok.1 h
    split at h
    · cases h
    · have hpos := pos_of_settle (by rw [size_opener]; omega) h
      exact ⟨by omega, hpos.2⟩

/-! ## The loop -/

def Cursor.run (text : String) (c : Cursor) : Except BadSlice (List Piece) :=
  match _ : round text c with
  | .error e => .error e
  | .ok (.next out c') => do return out ++ (← c'.run text)
  | .ok .unopened => literalBetween text c.literalStart text.utf8ByteSize
  | .ok .unclosed => literalBetween text c.literalStart text.utf8ByteSize
termination_by text.utf8ByteSize - c.pos
decreasing_by
  have := pos_of_round ‹_›
  omega

def tokenize (text : String) : Except BadSlice (List Piece) := Cursor.run text ⟨0, 0⟩

/-! ## The same scan -/

def Token.parts (t : Token) : String × Option String := (.ofList t.name, t.argument.map .ofList)

theorem parseBody_eq (body : List Char) :
    parseBody (.ofList body) = .ok ((Token.ofBody? body).map Token.parts) := by
  rw [parseBody, Text.find?_eq (List.cons_ne_nil _ _), Token.ofBody?]
  cases hcut : Text.cut? ['('] body with
  | none =>
    simp only [Option.map_none, String.toList_ofList]
    split <;> rfl
  | some p =>
    obtain ⟨name, rest⟩ := p
    have hbody : (String.ofList body).toList = name ++ ['('] ++ rest := by
      rw [String.toList_ofList, Text.eq_of_cut? hcut]
    have hrest := Text.slice_to_end hbody
    have hname : slice (.ofList body) (size []) (size ([] ++ name)) = .ok (.ofList name) :=
      Text.slice_of_append (by rw [hbody, List.nil_append, List.append_assoc])
    rw [Text.size_append] at hrest
    rw [List.nil_append, Text.size_nil] at hname
    have hbracket : size ['('] = 1 := by decide
    simp only [Option.map_some, ← hbracket, hrest, hname, bind, Except.bind, String.toList_ofList]
    cases closed? rest with
    | none => rfl
    | some args =>
      simp only
      split <;> rfl

def token? (body : List Char) : Option Token :=
  if Text.occurs opener body then none else Token.ofBody? body

theorem parse_eq (body : List Char) : parse (.ofList body) = .ok ((token? body).map Token.parts) := by
  rw [parse, Text.find?_eq opener_ne_nil, Option.isSome_map, ← Text.occurs, parseBody_eq, token?]
  split <;> rfl

theorem literalBetween_eq {a b d : List Char} (h : text.toList = a ++ b ++ d) :
    literalBetween text (size a) (size (a ++ b)) = .ok ((literals b).map Segment.piece) := by
  rw [literalBetween, Text.slice_of_append h, literals]
  by_cases hb : b = []
  · simp [hb, pure, Except.pure]
  · have hpos : size b ≠ 0 := mt Text.eq_nil_of_size hb
    have hlt : size a < size (a ++ b) := by rw [Text.size_append]; omega
    rw [if_pos hlt, if_neg (mt List.isEmpty_iff.1 hb)]
    rfl

variable {done lead before inner body after : List Char}

theorem Token.body_of_token? {t : Token} (h : token? body = some t) : t.body = body := by
  rw [token?] at h
  split at h
  · cases h
  · exact Token.body_of_ofBody? h

theorem settle_eq (h : text.toList = done ++ lead ++ opener ++ body ++ closer ++ after) :
    settle text (size done) (size (done ++ lead)) (size (done ++ lead ++ opener ++ body)) =
      .ok (match token? body with
        | none => .next [] ⟨size done, size (done ++ lead ++ opener)⟩
        | some t =>
          let stop := size (done ++ lead ++ t.text)
          .next ((literals lead ++ [Segment.token t]).map Segment.piece) ⟨stop, stop⟩) := by
  have hbody : slice text (size (done ++ lead ++ opener)) (size (done ++ lead ++ opener ++ body)) =
      .ok (.ofList body) := by
    refine Text.slice_of_append (c := closer ++ after) ?_
    rw [h]
    simp only [List.append_assoc]
  rw [settle]
  simp only [← Text.size_append, hbody, bind, Except.bind, parse_eq]
  cases htoken : token? body with
  | none => rfl
  | some t =>
    have ht := Token.body_of_token? htoken
    -- The body between its marks is the text of the token.
    have htext : done ++ lead ++ opener ++ body ++ closer = done ++ lead ++ t.text := by
      rw [Token.text, ht]
      simp only [List.append_assoc]
    have hraw : slice text (size (done ++ lead)) (size (done ++ lead ++ t.text)) = .ok (.ofList t.text) :=
      Text.slice_of_append (by rw [h, htext])
    have hliteral := literalBetween_eq (a := done) (b := lead) (d := t.text ++ after)
      (by rw [h, htext]; simp only [List.append_assoc])
    rw [htext]
    simp only [Option.map_some, hliteral, hraw, List.map_append]
    rfl

/-- The text that has come out, that is held back and that is still to be read, with the offsets between. -/
structure Stands (text : String) (done : List Char) (c : Cursor) (sc : Scan) : Prop where
  whole : text.toList = done ++ sc.held ++ sc.rest
  literalStart : c.literalStart = size done
  pos : c.pos = size (done ++ sc.held)

variable {sc sc' : Scan} {segs : List Segment}

theorem Stands.start (text : String) : Stands text [] ⟨0, 0⟩ ⟨[], text.toList⟩ :=
  ⟨rfl, rfl, rfl⟩

/-- A round of the loop, by what the text that is still to be read is cut into. -/
theorem Stands.round_eq (h : Stands text done c sc) :
    round text c = match Text.cut? opener sc.rest with
      | none => .ok .unopened
      | some (before, inner) =>
        match Text.cut? closer inner with
        | none => .ok .unclosed
        | some (body, _) =>
          let lead := sc.held ++ before
          settle text (size done) (size (done ++ lead)) (size (done ++ lead ++ opener ++ body)) := by
  have hrest : slice text c.pos text.utf8ByteSize = .ok (.ofList sc.rest) := by
    rw [h.pos]
    exact Text.slice_to_end h.whole
  rw [round, hrest]
  simp only [bind, Except.bind, Text.find?_eq opener_ne_nil]
  cases hopen : Text.cut? opener sc.rest with
  | none => rfl
  | some p =>
    obtain ⟨before, inner⟩ := p
    have hstart : c.pos + size before = size (done ++ (sc.held ++ before)) := by
      rw [h.pos, ← Text.size_append, List.append_assoc]
    have hinner : slice text (size (done ++ (sc.held ++ before) ++ opener)) text.utf8ByteSize =
        .ok (.ofList inner) := by
      refine Text.slice_to_end ?_
      rw [h.whole, Text.eq_of_cut? hopen]
      simp only [List.append_assoc]
    simp only [Option.map_some, hstart, ← Text.size_append, hinner, Text.find?_eq closer_ne_nil]
    cases Text.cut? closer inner with
    | none => rfl
    | some p => simp only [Option.map_some, h.literalStart, ← Text.size_append]

theorem Stands.round_of_step_eq_none (h : Stands text done c sc) (hstep : sc.step = none) :
    round text c = .ok .unopened ∨
      round text c = .ok .unclosed ∧ c.pos + 2 ≤ text.utf8ByteSize := by
  rw [h.round_eq]
  rw [Scan.step] at hstep
  cases hopen : Text.cut? opener sc.rest with
  | none => exact .inl rfl
  | some p =>
    obtain ⟨before, inner⟩ := p
    simp only [hopen] at hstep
    cases hclose : Text.cut? closer inner with
    | none =>
      -- The opener that was found takes two bytes after the cursor.
      refine .inr ⟨by simp only [hclose], ?_⟩
      rw [← Text.size_eq, h.whole, h.pos, Text.eq_of_cut? hopen]
      simp only [Text.size_append, size_opener]
      omega
    | some p =>
      obtain ⟨body, after⟩ := p
      simp only [hclose] at hstep
      split at hstep <;> cases hstep

theorem exists_of_step (h : sc.step = some (segs, sc')) : ∃ before inner body after,
    Text.cut? opener sc.rest = some (before, inner) ∧ Text.cut? closer inner = some (body, after) ∧
      (token? body = none ∧ segs = [] ∧ sc' = ⟨sc.held ++ before ++ opener, inner⟩ ∨
        ∃ t, token? body = some t ∧ segs = literals (sc.held ++ before) ++ [.token t] ∧ sc' = ⟨[], after⟩) := by
  unfold Scan.step at h
  split at h
  · cases h
  · rename_i before inner hopen
    split at h
    · cases h
    · rename_i body after hclose
      refine ⟨before, inner, body, after, hopen, hclose, ?_⟩
      split at h
      · rename_i t htoken
        cases h
        exact .inr ⟨t, htoken, rfl, rfl⟩
      · rename_i htoken
        cases h
        exact .inl ⟨htoken, rfl, rfl⟩

theorem Stands.round_of_step (h : Stands text done c sc) (hstep : sc.step = some (segs, sc')) :
    ∃ c', round text c = .ok (.next (segs.map Segment.piece) c') ∧
      Stands text (done ++ segs.flatMap Segment.text) c' sc' := by
  obtain ⟨before, inner, body, after, hopen, hclose, hcases⟩ := exists_of_step hstep
  have hinner : text.toList = done ++ (sc.held ++ before) ++ opener ++ inner := by
    rw [h.whole, Text.eq_of_cut? hopen]
    simp only [List.append_assoc]
  have hbody : text.toList = done ++ (sc.held ++ before) ++ opener ++ body ++ closer ++ after := by
    rw [hinner, Text.eq_of_cut? hclose]
    simp only [List.append_assoc]
  rw [h.round_eq]
  simp only [hopen, hclose, settle_eq hbody]
  -- Either the token is passed over, with its opener held back, or it is put out.
  rcases hcases with ⟨hnone, rfl, rfl⟩ | ⟨t, hsome, rfl, rfl⟩
  · refine ⟨_, by rw [hnone]; rfl, ?_, ?_, ?_⟩
    · simpa using hinner
    · simp
    · simp
  · have hlead : (literals (sc.held ++ before) ++ [Segment.token t]).flatMap Segment.text =
        sc.held ++ before ++ t.text := by
      rw [List.flatMap_append, text_literals]
      simp [Segment.text]
    have ht := Token.body_of_token? hsome
    refine ⟨_, by rw [hsome], ?_, ?_, ?_⟩
    · rw [hlead, hbody, Token.text, ht]
      simp
    · rw [hlead]
      simp
    · rw [hlead]
      simp

/-! ## Runs of the loop -/

variable {n : Nat}

theorem run_of_next (h : round text c = .ok (.next out c')) :
    c.run text = do return out ++ (← c'.run text) := by
  rw [Cursor.run]
  split <;> rename_i hround <;> rw [h] at hround <;> cases hround
  rfl

theorem run_of_end (h : round text c = .ok .unopened ∨ round text c = .ok .unclosed) :
    c.run text = literalBetween text c.literalStart text.utf8ByteSize := by
  rw [Cursor.run]
  split
  · rename_i hround
    rcases h with h | h <;> rw [h] at hround <;> cases hround
  · rename_i hround
    rcases h with h | h <;> rw [h] at hround <;> cases hround
  · rfl
  · rfl

theorem Stands.run_eq (h : Stands text done c sc) : c.run text = .ok (sc.run.map Segment.piece) := by
  induction hn : sc.rest.length using Nat.strongRecOn generalizing done c sc with
  | ind n ih =>
    cases hstep : sc.step with
    | none =>
      rw [run_of_end ((h.round_of_step_eq_none hstep).imp_right And.left), run_of_step_eq_none hstep,
        h.literalStart, ← Text.size_eq, h.whole, List.append_assoc]
      refine literalBetween_eq (d := []) ?_
      rw [h.whole]
      simp only [List.append_assoc, List.append_nil]
    | some p =>
      obtain ⟨segs, sc'⟩ := p
      obtain ⟨c', hround, h'⟩ := h.round_of_step hstep
      have hlen := Scan.rest_of_step hstep
      rw [run_of_next hround, run_of_step_eq_some hstep, ih sc'.rest.length (by omega) h' rfl, List.map_append]
      rfl

/-- The loop has gone so many rounds, with these pieces, and stands there. -/
inductive Reached (text : String) : Nat → List Piece → Cursor → Prop
  | start : Reached text 0 [] ⟨0, 0⟩
  | next {n : Nat} {out more : List Piece} {c c' : Cursor} : Reached text n out c →
      round text c = .ok (.next more c') → Reached text (n + 1) (out ++ more) c'

theorem Reached.stands (h : Reached text n out c) :
    ∃ segs : List Segment, ∃ sc, out = segs.map Segment.piece ∧
      Stands text (segs.flatMap Segment.text) c sc := by
  induction h with
  | start => exact ⟨[], ⟨[], text.toList⟩, rfl, .start text⟩
  | next _ hround ih =>
    obtain ⟨segs, sc, rfl, hstands⟩ := ih
    cases hstep : sc.step with
    | none =>
      rcases hstands.round_of_step_eq_none hstep with hend | ⟨hend, -⟩ <;> rw [hround] at hend <;> cases hend
    | some p =>
      obtain ⟨moreSegs, sc'⟩ := p
      obtain ⟨c'', hround', hstands'⟩ := hstands.round_of_step hstep
      rw [hround'] at hround
      cases hround
      rw [← List.flatMap_append] at hstands'
      exact ⟨segs ++ moreSegs, sc', by rw [List.map_append], hstands'⟩

theorem Reached.two_mul_le (h : Reached text n out c) : 2 * n ≤ c.pos := by
  induction h with
  | start => exact Nat.le_refl _
  | next _ hround ih =>
    have hpos := pos_of_round hround
    omega

theorem Reached.tokenize_eq (h : Reached text n out c) : tokenize text = do return out ++ (← c.run text) := by
  induction h with
  | start => rw [tokenize]; simp
  | next _ hround ih =>
    rw [ih, run_of_next hround]
    simp [List.append_assoc]

theorem Reached.exists_end (h : Reached text n out c) : ∃ m out' c', Reached text m out' c' ∧
    (round text c' = .ok .unopened ∨ round text c' = .ok .unclosed ∧ c'.pos + 2 ≤ text.utf8ByteSize) := by
  induction hm : text.utf8ByteSize - c.pos using Nat.strongRecOn generalizing n out c with
  | ind m ih =>
    obtain ⟨segs, sc, rfl, hstands⟩ := h.stands
    cases hstep : sc.step with
    | none => exact ⟨n, _, c, h, hstands.round_of_step_eq_none hstep⟩
    | some p =>
      obtain ⟨moreSegs, sc'⟩ := p
      obtain ⟨c', hround, -⟩ := hstands.round_of_step hstep
      have hpos := pos_of_round hround
      exact ih (text.utf8ByteSize - c'.pos) (by omega) (h.next hround) rfl

theorem toList_text (segs : List Segment) :
    ((segs.map Segment.piece).flatMap fun p => p.text.toList) = segs.flatMap Segment.text := by
  rw [List.flatMap_map]
  refine List.flatMap_congr fun g _ => ?_
  cases g <;> exact String.toList_ofList

/-- What holds wherever the loop stands. -/
structure Sound (text : String) (n : Nat) (out : List Piece) (c : Cursor) : Prop where
  ordered : c.literalStart ≤ c.pos
  within : c.pos ≤ text.utf8ByteSize
  literalStart : IsBoundary text c.literalStart
  pos : IsBoundary text c.pos
  emitted : slice text 0 c.literalStart = .ok (.ofList (out.flatMap fun p => p.text.toList))
  rounds : 2 * n ≤ c.pos
  round : ∃ o, round text c = .ok o ∧ ∀ more c', o = .next more c' → c.pos + 2 ≤ c'.pos

theorem Reached.sound (h : Reached text n out c) : Sound text n out c := by
  obtain ⟨segs, sc, rfl, hstands⟩ := h.stands
  have hwhole := hstands.whole
  refine ⟨?_, ?_, ?_, ?_, ?_, h.two_mul_le, ?_⟩
  · rw [hstands.literalStart, hstands.pos, Text.size_append]
    omega
  · rw [hstands.pos, ← Text.size_eq, hwhole, Text.size_append (_ ++ _)]
    omega
  · rw [hstands.literalStart]
    exact Text.isBoundary_iff.2 ⟨_, _, hwhole.trans (List.append_assoc _ _ _), rfl⟩
  · rw [hstands.pos]
    exact Text.isBoundary_iff.2 ⟨_, _, hwhole, rfl⟩
  · rw [hstands.literalStart, toList_text]
    exact Text.slice_of_append (a := []) (b := segs.flatMap Segment.text)
      (by rw [hwhole, List.nil_append, List.append_assoc])
  · cases hstep : sc.step with
    | none =>
      rcases hstands.round_of_step_eq_none hstep with hround | ⟨hround, -⟩
      · exact ⟨_, hround, nofun⟩
      · exact ⟨_, hround, nofun⟩
    | some p =>
      obtain ⟨c', hround, -⟩ := hstands.round_of_step hstep
      refine ⟨_, hround, fun more c'' heq => ?_⟩
      rw [heq] at hround
      exact (pos_of_round hround).1

/-- Wherever the loop stands, its offsets are in order and between characters, all before the first has come
out, and the next round takes no slice that there is not, and if it goes on, it goes on by two bytes or more.
So the loop ends after no more rounds than the text has pairs of bytes, and with the segments of the text. -/
theorem tokenize_safe (text : String) :
    (∀ n out c, Reached text n out c → Sound text n out c) ∧
    (∃ n out c last, Reached text n out c ∧
      (round text c = .ok .unopened ∧ 2 * n ≤ text.utf8ByteSize ∨
        round text c = .ok .unclosed ∧ 2 * (n + 1) ≤ text.utf8ByteSize) ∧
      literalBetween text c.literalStart text.utf8ByteSize = .ok last ∧
      tokenize text = .ok (out ++ last)) ∧
    tokenize text = .ok ((segments text.toList).map Segment.piece) := by
  have hsegments : tokenize text = .ok ((segments text.toList).map Segment.piece) := (Stands.start text).run_eq
  refine ⟨fun n out c h => h.sound, ?_, hsegments⟩
  have hstart : Reached text 0 [] ⟨0, 0⟩ := .start
  obtain ⟨n, out, c, h, hend⟩ := hstart.exists_end
  have hpos := h.two_mul_le
  have hwithin := h.sound.within
  have hrun := run_of_end (hend.imp_right And.left)
  rw [h.tokenize_eq, bind_eq_ok] at hsegments
  obtain ⟨last, hlast, -⟩ := hsegments
  refine ⟨n, out, c, last, h, ?_, hrun.symm.trans hlast, by rw [h.tokenize_eq, hlast]; rfl⟩
  exact hend.imp (fun hround => ⟨hround, by omega⟩) fun hround => ⟨hround.1, by omega⟩

example : round "é<%<%A(π)%>" ⟨0, 4⟩ =
    .ok (.next [.literal "é<%", .token "<%A(π)%>" "A" (some "π")] ⟨13, 13⟩) := by
  decide +kernel

end ItemHover.Template
