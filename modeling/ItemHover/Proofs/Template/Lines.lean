import ItemHover.Proofs.Number.Decimal
import ItemHover.Proofs.Template.Scan
import ItemHover.Session.Report

/-!
# Lines of a template

A template is rendered line by line: what is put for a token depends on one line only, and no number
that is put makes or breaks a line break. So a rendered template splits into its rendered lines.
-/

namespace ItemHover.Template

open Hover (lineBreak)

variable {ρ : Token → Option (List Char)} {s s' u after : List Char} {c : Char} {t : Token}

theorem toList_lineBreak : lineBreak.toList = '<' :: ['/', 'b', 'r', '>'] := rfl

/-! ## Replacements on one line -/

/-- A replacement that leaves a token alone whose body has the first character of a line break. -/
def OnLine (ρ : Token → Option (List Char)) : Prop := ∀ t : Token, '<' ∈ t.body → ρ t = none

theorem onLine_variableText (item : Item) : OnLine (variableText item) := by
  rintro ⟨name, argument⟩ hlt
  cases argument with
  | some a => rfl
  | none =>
    rw [variableText, Option.map_eq_none_iff]
    refine List.find?_eq_none.2 ?_
    intro v _ hname
    obtain rfl : v.name.toList = name := by simpa using hname
    cases v <;> exact absurd hlt (by decide)

theorem multiplier?_eq_none {a : List Char} (h : c ∈ a) (hc : Decimal.isDigit c = false) :
    multiplier? a = none := by
  have hread : Decimal.read? a = none := by
    rw [Decimal.read?, if_neg]
    simp only [Bool.and_eq_true, List.all_eq_true, not_and]
    intro _ hall
    rw [hall c h] at hc
    cases hc
  rw [multiplier?, hread]
  rfl

theorem onLine_functionText (item : Item) (g : Grouping) : OnLine (functionText item g) := by
  rintro ⟨name, argument⟩ hlt
  rw [functionText, Option.bind_eq_none_iff]
  intro f hf
  unfold Function.named? at hf
  split at hf <;> cases hf
  rename_i hname
  obtain rfl : name = "qtymult".toList := by simpa using hname
  cases argument with
  | none => exact absurd hlt (by decide)
  | some a =>
    have ha : '<' ∈ a := by simpa [Token.body] using hlt
    rw [Function.call, multiplier?_eq_none ha (by decide)]
    rfl

/-! ## Over a line break -/

theorem substitute_append_of_no_opener (ρ : Token → Option (List Char)) (h : ¬ opener <:+: u)
    (hlast : u.getLast? ≠ some '<') (s : List Char) :
    substitute ρ (u ++ s) = u ++ substitute ρ s := by
  induction u with
  | nil => rfl
  | cons c u ih =>
    rw [List.infix_cons_iff, not_or] at h
    have hp := not_opened_append h.1 hlast s
    have hlast' : u.getLast? ≠ some '<' := by
      intro hu
      rw [List.getLast?_cons, hu] at hlast
      exact hlast rfl
    rw [List.cons_append, substitute_of_not_opened ρ hp, ih h.2 hlast']
    rfl

theorem substitute_break (ρ : Token → Option (List Char)) (s : List Char) :
    substitute ρ (lineBreak.toList ++ s) = lineBreak.toList ++ substitute ρ s :=
  substitute_append_of_no_opener ρ (by decide) (by decide) s

theorem exists_of_opener_append (h : opener ++ u = s ++ (lineBreak.toList ++ s')) :
    ∃ inner, s = opener ++ inner ∧ u = inner ++ (lineBreak.toList ++ s') := by
  cases s with
  | nil => cases h
  | cons c s =>
    cases s with
    | nil => cases h
    | cons d inner =>
      simp only [opener, List.cons_append, List.nil_append, List.cons.injEq] at h
      obtain ⟨rfl, rfl, rfl⟩ := h
      exact ⟨inner, rfl, rfl⟩

theorem exists_of_append_closer {inner body : List Char} (hinner : ¬ closer <:+: inner)
    (h : inner ++ lineBreak.toList ++ s' = body ++ (closer ++ after)) :
    ∃ w, body = inner ++ lineBreak.toList ++ w ∧ s' = w ++ (closer ++ after) := by
  rcases List.append_eq_append_iff.1 h with ⟨w, hw, hs'⟩ | ⟨w, hw, hs'⟩
  · exact ⟨w, hw, hs'⟩
  · match w with
    | [] => exact ⟨[], by simpa using hw.symm, by simpa using hs'.symm⟩
    | [c] =>
      obtain rfl : '%' = c := (List.cons.inj hs').1
      have hlast := congrArg List.getLast? hw
      rw [List.getLast?_append, List.getLast?_append] at hlast
      cases hlast
    | c :: d :: w =>
      -- The whole of it would stand on the line or in its break.
      exfalso
      obtain ⟨rfl, hrest⟩ := List.cons.inj hs'
      obtain rfl : '>' = d := (List.cons.inj hrest).1
      have hinfix : closer <:+: inner ++ lineBreak.toList := ⟨body, w, by rw [hw]; simp [closer]⟩
      rw [toList_lineBreak] at hinfix
      rcases Text.infix_append_cons (by decide) hinfix with hinfix | hinfix
      · exact hinner hinfix
      · exact absurd hinfix (by decide)

/-- A token that begins on a line and does not end on it has the line break in its body. -/
theorem over_break (hs : front? s = none) (h : front? (s ++ lineBreak.toList ++ s') = some (t, after)) :
    ∃ inner w, s = opener ++ inner ∧ ¬ closer <:+: inner ∧
      t.body = inner ++ lineBreak.toList ++ w ∧ t.body.getLast? ≠ some '<' ∧ ¬ opener <:+: t.body ∧
      s' = w ++ closer ++ after := by
  obtain ⟨inner', body, hopen, hcut, hno, hbody⟩ := exists_of_front? h
  rw [List.append_assoc] at hopen
  obtain ⟨inner, rfl, rfl⟩ := exists_of_opener_append hopen.symm
  have hclose : Text.cut? closer inner = none := by
    cases hcut' : Text.cut? closer inner with
    | none => rfl
    | some p =>
      -- The token would end on its line, and so be one there.
      obtain ⟨b, a⟩ := p
      have hsame := Text.cut?_append hcut' (lineBreak.toList ++ s')
      rw [hcut] at hsame
      obtain rfl : body = b := congrArg Prod.fst (Option.some.inj hsame)
      rw [front?_opener, hcut'] at hs
      simp [hno, hbody] at hs
  have hinner := Text.cut?_eq_none_iff.1 hclose
  have heq : inner ++ lineBreak.toList ++ s' = body ++ (closer ++ after) := by
    have heq := Text.eq_of_cut? hcut
    simpa using heq
  obtain ⟨w, hw, hs'⟩ := exists_of_append_closer hinner heq
  refine ⟨inner, w, rfl, hinner, ?_, ?_, ?_, ?_⟩
  · rw [Token.body_of_ofBody? hbody, hw]
  · rw [Token.body_of_ofBody? hbody]
    exact Token.getLast?_of_ofBody? hbody
  · rw [Token.body_of_ofBody? hbody]
    exact Text.occurs_eq_false_iff.1 hno
  · rw [hs', List.append_assoc]

/-- Where no replacement looks over a line break, the text before it and the text after it are filled
each by itself. -/
theorem substitute_append_break (hρ : OnLine ρ) (s s' : List Char) :
    substitute ρ (s ++ lineBreak.toList ++ s') =
      substitute ρ s ++ lineBreak.toList ++ substitute ρ s' := by
  induction s using front_induction with
  | nil => rw [List.nil_append, substitute_break, substitute_nil]; rfl
  | token s t after hfront ih =>
    have hfront' := front?_append hfront (lineBreak.toList ++ s')
    rw [List.append_assoc, substitute_of_front? ρ hfront', substitute_of_front? ρ hfront,
      ← List.append_assoc, ih]
    simp
  | other c s hfront ih =>
    cases hall : front? (c :: s ++ lineBreak.toList ++ s') with
    | none =>
      rw [List.cons_append, List.cons_append] at hall ⊢
      rw [substitute_of_front?_eq_none ρ hall, substitute_of_front?_eq_none ρ hfront, ih]
      rfl
    | some p =>
      -- A token that is there only in the whole text looks over the break, and so stays as it is.
      obtain ⟨t, after⟩ := p
      obtain ⟨inner, w, hopen, hinner, hbody, hlast, hno, rfl⟩ := over_break hfront hall
      have hkept : ρ t = none := hρ t (by rw [hbody]; simp [lineBreak])
      have hw : ¬ opener <:+: w := by
        intro hinfix
        exact hno (hbody ▸ List.infix_append_of_infix_right hinfix)
      have hwlast : w.getLast? ≠ some '<' := by
        intro hwlast
        rw [hbody, List.getLast?_append, hwlast] at hlast
        exact hlast rfl
      have hrest : substitute ρ (w ++ closer ++ after) = w ++ closer ++ substitute ρ after := by
        rw [List.append_assoc, substitute_append_of_no_opener ρ hw hwlast,
          substitute_append_of_no_opener ρ (by decide) (by decide), List.append_assoc]
      rw [substitute_of_front? ρ hall, hkept, hopen, substitute_opener_of_no_closer ρ hinner, hrest,
        Option.getD_none, Token.text, hbody]
      simp only [List.append_assoc]

theorem substitute_intercalate_break (hρ : OnLine ρ) (lines : List (List Char)) :
    substitute ρ (lineBreak.toList.intercalate lines) =
      lineBreak.toList.intercalate (lines.map (substitute ρ)) := by
  induction lines with
  | nil => exact substitute_nil ρ
  | cons l lines ih =>
    cases lines with
    | nil => simp
    | cons l' lines =>
      rw [List.intercalate_cons_cons, substitute_append_break hρ, ih]
      simp only [List.map_cons, List.intercalate_cons_cons]

/-! ## Numbers and line breaks -/

/-- A text that no line break touches, whatever stands around it. -/
structure Solid (r : List Char) : Prop where
  head : ∃ c r', r = c :: r' ∧ c ∉ lineBreak.toList
  drop : ∀ u, lineBreak.toList <:+: r ++ u → lineBreak.toList <:+: u

variable {r a : List Char}

theorem Solid.apart (hr : Solid r) (h : lineBreak.toList <:+: a ++ (r ++ u)) :
    lineBreak.toList <:+: a ∨ lineBreak.toList <:+: u := by
  obtain ⟨c, r', rfl, hc⟩ := hr.head
  rcases Text.infix_append_cons hc h with ha | hu
  · exact Or.inl ha
  · exact Or.inr (hr.drop u (List.infix_cons hu))

theorem solid_cons (hc : c ∉ lineBreak.toList)
    (h : ∀ u, lineBreak.toList <:+: r ++ u → lineBreak.toList <:+: u) : Solid (c :: r) := by
  refine ⟨⟨c, r, rfl, hc⟩, ?_⟩
  intro u hu
  rcases Text.infix_append_cons (s := []) hc hu with hnil | hu
  · exact absurd hnil (by decide)
  · exact h u hu

theorem Solid.cons (hc : c ∉ lineBreak.toList) (hr : Solid r) : Solid (c :: r) := solid_cons hc hr.drop

theorem not_mem_break_of_isDigit (h : Decimal.isDigit c = true) : c ∉ lineBreak.toList := by
  intro hmem
  have hall : (lineBreak.toList.all fun d => !Decimal.isDigit d) = true := by decide
  have hc := List.all_eq_true.1 hall c hmem
  rw [h] at hc
  cases hc

theorem solid_digits {ds : List Char} (hne : ds ≠ []) (h : ∀ c ∈ ds, Decimal.isDigit c = true) : Solid ds := by
  induction ds with
  | nil => exact absurd rfl hne
  | cons d ds ih =>
    have hd := not_mem_break_of_isDigit (h d List.mem_cons_self)
    cases ds with
    | nil => exact solid_cons hd fun _ hu => hu
    | cons e ds => exact .cons hd (ih (List.cons_ne_nil e ds) fun c hc => h c (List.mem_cons_of_mem d hc))

/-- A separator stands between two digits, so it does not matter which character it is. -/
theorem solid_separate (sep : Char) {ds : List Char} (hne : ds ≠ []) (h : ∀ c ∈ ds, Decimal.isDigit c = true) :
    Solid (Grouping.separate sep ds) := by
  induction ds with
  | nil => exact absurd rfl hne
  | cons d ds ih =>
    have hd := not_mem_break_of_isDigit (h d List.mem_cons_self)
    cases ds with
    | nil => exact solid_digits (List.cons_ne_nil d []) h
    | cons e ds =>
      have ih := ih (List.cons_ne_nil e ds) fun c hc => h c (List.mem_cons_of_mem d hc)
      rw [Grouping.separate]
      split
      · refine solid_cons hd ?_
        intro u hu
        rcases ih.apart (a := [sep]) hu with hsep | hu
        · have hlen : 5 ≤ 1 := hsep.length_le
          exact absurd hlen (by decide)
        · exact hu
      · exact .cons hd ih

theorem solid_decimal (n : Int) : Solid (Decimal.write n) := by
  have hdigits := solid_digits (Decimal.digits_ne_nil n.natAbs) fun _ => Decimal.isDigit_of_mem_digits
  rw [Decimal.write]
  split
  · exact .cons (by decide) hdigits
  · exact hdigits

theorem solid_grouped (g : Grouping) (n : Int64) : Solid (g.write n) := by
  unfold Grouping.write
  cases g.separator with
  | none => exact solid_decimal n.toInt
  | some sep =>
    have hdigits := solid_separate sep (Decimal.digits_ne_nil n.toInt.natAbs)
      fun _ => Decimal.isDigit_of_mem_digits
    simp only
    split
    · exact .cons (by decide) hdigits
    · exact hdigits

theorem solid_variableText {item : Item} (h : variableText item t = some r) : Solid r := by
  unfold variableText at h
  split at h
  · rw [Option.map_eq_some_iff] at h
    obtain ⟨v, -, rfl⟩ := h
    exact solid_decimal _
  · cases h

theorem solid_functionText {item : Item} {g : Grouping} (h : functionText item g t = some r) :
    Solid r := by
  rw [functionText, Option.bind_eq_some_iff] at h
  obtain ⟨f, -, hcall⟩ := h
  cases f with
  | quantityTimes =>
    cases hargument : t.argument with
    | none =>
      rw [hargument] at hcall
      obtain rfl := Option.some.inj hcall
      exact solid_grouped g _
    | some a =>
      rw [hargument, Function.call, Option.map_eq_some_iff] at hcall
      obtain ⟨n, -, rfl⟩ := hcall
      exact solid_grouped g _

theorem break_of_substitute (hρ : ∀ t r, ρ t = some r → Solid r) (a s : List Char)
    (h : lineBreak.toList <:+: a ++ substitute ρ s) : lineBreak.toList <:+: a ++ s := by
  induction s using front_induction generalizing a with
  | nil => rwa [substitute_nil] at h
  | other c s hfront ih =>
    rw [substitute_of_front?_eq_none ρ hfront, ← List.singleton_append, ← List.append_assoc] at h
    have hs := ih (a ++ [c]) h
    rwa [List.append_assoc, List.singleton_append] at hs
  | token s t after hfront ih =>
    rw [substitute_of_front? ρ hfront] at h
    rw [eq_of_front? hfront]
    cases hr : ρ t with
    | none =>
      rw [hr, Option.getD_none, ← List.append_assoc] at h
      have hafter := ih (a ++ t.text) h
      rwa [List.append_assoc] at hafter
    | some r =>
      rw [hr, Option.getD_some] at h
      -- A value takes no part in a line break, so the break is before or after it.
      rcases (hρ t r hr).apart h with ha | hafter
      · exact List.infix_append_of_infix_left ha
      · have hafter := ih [] hafter
        exact List.infix_append_of_infix_right (List.infix_append_of_infix_right hafter)

/-! ## Rendered lines -/

theorem toList_render (g : Grouping) (template : String) (item : Item) :
    (render g template item).toList =
      substitute (functionText item g) (substitute (variableText item) template.toList) :=
  String.toList_ofList

theorem render_intercalate (g : Grouping) (item : Item) (lines : List String) :
    render g (lineBreak.intercalate lines) item =
      lineBreak.intercalate (lines.map fun l => render g l item) := by
  apply String.toList_inj.1
  rw [toList_render, String.toList_intercalate, substitute_intercalate_break (onLine_variableText item),
    substitute_intercalate_break (onLine_functionText item g), String.toList_intercalate]
  simp only [List.map_map, Function.comp_def, toList_render]

theorem break_of_render {g : Grouping} {template : String} {item : Item}
    (h : lineBreak.toList <:+: (render g template item).toList) : lineBreak.toList <:+: template.toList := by
  rw [toList_render] at h
  have hvariables := break_of_substitute (fun _ _ => solid_functionText) [] _ h
  exact break_of_substitute (fun _ _ => solid_variableText) [] _ hvariables

theorem split_render (g : Grouping) (item : Item) {lines : List String} (hne : lines ≠ [])
    (h : ∀ l ∈ lines, Text.occurs lineBreak.toList l.toList = false) :
    Text.split lineBreak.toList (render g (lineBreak.intercalate lines) item).toList =
      lines.map fun l => (render g l item).toList := by
  rw [render_intercalate, String.toList_intercalate, List.map_map]
  refine Text.split_intercalate (by decide) (by simpa using hne) ?_
  intro p hp
  obtain ⟨l, hl, rfl⟩ := List.mem_map.1 hp
  intro hinfix
  exact Text.occurs_eq_false_iff.1 (h l hl) (break_of_render hinfix)

theorem split_render_eq_map (g : Grouping) (item : Item) (template : String) :
    Text.split lineBreak.toList (render g template item).toList =
      (Text.split lineBreak.toList template.toList).map fun l =>
        (render g (String.ofList l) item).toList := by
  have hmark : lineBreak.toList ≠ [] := by decide
  obtain ⟨hjoin, hne, hpieces⟩ := Text.pieces_of_split hmark template.toList
  have hlines : (Text.split lineBreak.toList template.toList).map String.ofList ≠ [] := by simpa using hne
  have htemplate :
      lineBreak.intercalate ((Text.split lineBreak.toList template.toList).map String.ofList) = template := by
    apply String.toList_inj.1
    rw [String.toList_intercalate, List.map_map]
    simpa [Function.comp_def] using hjoin
  have hsplit := split_render g item hlines (by
    intro l hl
    obtain ⟨p, hp, rfl⟩ := List.mem_map.1 hl
    rw [String.toList_ofList]
    exact Text.occurs_eq_false_iff.2 (hpieces p hp))
  rwa [htemplate, List.map_map] at hsplit

/-- A hover renders line by line: joining lines and rendering them commute. Where no line has a break in
it, the rendered hover is shown in as many lines as were written, each of them rendered by itself. And
rendering neither makes nor breaks a line of any template. -/
theorem render_line_by_line (g : Grouping) (item : Item) (lines : List String) :
    render g (lineBreak.intercalate lines) item =
        lineBreak.intercalate (lines.map fun l => render g l item) ∧
      (lines ≠ [] → (∀ l ∈ lines, Text.occurs lineBreak.toList l.toList = false) →
        Text.split lineBreak.toList (render g (lineBreak.intercalate lines) item).toList =
            lines.map (fun l => (render g l item).toList) ∧
          ∀ color, Report.painted color (render g (lineBreak.intercalate lines) item) =
            lines.map fun l => Report.paint color (render g l item)) ∧
      ∀ template : String, Text.split lineBreak.toList (render g template item).toList =
        (Text.split lineBreak.toList template.toList).map fun l =>
          (render g (String.ofList l) item).toList := by
  refine ⟨render_intercalate g item lines, ?_, split_render_eq_map g item⟩
  intro hne hbreaks
  have hsplit := split_render g item hne hbreaks
  refine ⟨hsplit, ?_⟩
  intro color
  rw [Report.painted, hsplit, List.map_map]
  refine List.map_congr_left ?_
  intro l _
  rw [Function.comp_apply, String.ofList_toList]

/-- Lines that would complete each other's tokens if they were one. -/
def tornLines : List String := ["<%qtymult(10)%", "> <%qtymult(<%QTY%>00)%>", "<%f(", "<%ID)%>"]

theorem render_tornLines :
    tornLines ≠ [] ∧ (∀ l ∈ tornLines, Text.occurs lineBreak.toList l.toList = false) ∧
      Text.split lineBreak.toList (render .comma (lineBreak.intercalate tornLines) ⟨7, 50, 0, 0⟩).toList =
        ["<%qtymult(10)%", "> 250,000", "<%f(", "<%ID)%>"].map String.toList := by
  have hne : tornLines ≠ [] := by decide
  have hbreaks : ∀ l ∈ tornLines, Text.occurs lineBreak.toList l.toList = false := by decide
  refine ⟨hne, hbreaks, ?_⟩
  rw [((render_line_by_line .comma ⟨7, 50, 0, 0⟩ tornLines).2.1 hne hbreaks).1]
  decide +kernel

end ItemHover.Template
