import CatalogSchema.Json.Parser
import CatalogSchema.Json.Printer
import Mathlib.Data.List.Basic
import Mathlib.Data.List.TakeDrop

/-!
# Written documents are read back

A document without decimals is read back from its text as it was written, in every layout: the members of
an object in their order and every string character by character (`parse_render`). `Json.Fits` says that
a document keeps within the limits of the reader, the depth of nesting and the digits of a number.
-/

namespace CatalogSchema

namespace Json

/-! ## Strings -/

theorem hexDigit?_hexChar : ∀ d < 16, hexDigit? (hexChar d) = some d := by decide

/-- Below the space a character is read back from its four hexadecimal digits. -/
theorem stringFrom_hex {c : Char} (hc : c.toNat < 0x20) (done rest : List Char) :
    stringFrom .plain done
        ('\\' :: 'u' :: '0' :: '0' :: hexChar (c.toNat / 16) :: hexChar (c.toNat % 16) :: rest) =
      stringFrom .plain (c :: done) rest := by
  have hhigh := hexDigit?_hexChar (c.toNat / 16) (by omega)
  have hlow := hexDigit?_hexChar (c.toNat % 16) (by omega)
  have hzero : hexDigit? '0' = some 0 := by decide
  have hvalue : 16 * (16 * (16 * (16 * 0 + 0) + 0) + c.toNat / 16) + c.toNat % 16 = c.toNat := by omega
  have hunit : codeUnit c.toNat none = .push c := by
    have hnotHigh : isHighSurrogate c.toNat = false := by simp [isHighSurrogate]; omega
    have hnotLow : isLowSurrogate c.toNat = false := by simp [isLowSurrogate]; omega
    simp [codeUnit, hnotHigh, hnotLow, Char.ofNat_toNat]
  simp only [stringFrom, StringState.step, hzero, hhigh, hlow, hvalue, hunit, Char.reduceEq, ↓reduceIte]

/-- An escaped character is read back as the character. -/
theorem stringFrom_escapeChar (c : Char) (done rest : List Char) :
    stringFrom .plain done (escapeChar c ++ rest) = stringFrom .plain (c :: done) rest := by
  unfold escapeChar
  split
  · next h => subst h; rfl
  split
  · next h => subst h; rfl
  split
  · next h => subst h; rfl
  split
  · next h => subst h; rfl
  split
  · next h => subst h; rfl
  split
  · next h => subst h; rfl
  split
  · next h => subst h; rfl
  split
  · next h => exact stringFrom_hex h done rest
  · next hquote hslash _ _ _ _ _ hlow =>
    simp [stringFrom, StringState.step, hquote, hslash, hlow]

theorem stringFrom_escaped (cs done rest : List Char) :
    stringFrom .plain done (cs.flatMap escapeChar ++ '"' :: rest) =
      some (String.ofList (done.reverse ++ cs), rest) := by
  induction cs generalizing done with
  | nil => simp [stringFrom, StringState.step]
  | cons c cs ih =>
    rw [List.flatMap_cons, List.append_assoc, stringFrom_escapeChar, ih]
    simp

theorem string_escaped (s : String) (rest : List Char) :
    string (s.toList.flatMap escapeChar ++ '"' :: rest) = some (s, rest) := by
  rw [string, stringFrom_escaped]
  simp

/-! ## Numbers -/

/-- What follows a value does not go on with it, as digits, a point or an exponent would. -/
def Stops (rest : List Char) : Prop :=
  ∀ c ∈ rest.head?, c.isDigit = false ∧ c ≠ '.' ∧ c ≠ 'e' ∧ c ≠ 'E'

theorem digits_append {ds rest : List Char} (hds : ∀ c ∈ ds, c.isDigit) (hrest : Stops rest) :
    digits (ds ++ rest) = (ds, rest) := by
  have hr : rest.takeWhile Char.isDigit = [] ∧ rest.dropWhile Char.isDigit = rest := by
    cases rest with
    | nil => exact ⟨rfl, rfl⟩
    | cons c rest =>
      have hc := (hrest c rfl).1
      simp [hc]
  rw [digits, List.span_eq_takeWhile_dropWhile, List.takeWhile_append_of_pos hds,
    List.dropWhile_append_of_pos hds, hr.1, hr.2, List.append_nil]

theorem fraction_of_stops {rest : List Char} (h : Stops rest) : fraction rest = some (none, rest) := by
  unfold fraction
  split
  · exact absurd rfl (h _ rfl).2.1
  · rfl

theorem exponent_of_stops {rest : List Char} (h : Stops rest) : exponent rest = some (none, rest) := by
  cases rest with
  | nil => rfl
  | cons c rest =>
    obtain ⟨-, -, he, hE⟩ := h c rfl
    simp [exponent, he, hE]

/-- No number but zero is written with a zero in front. -/
theorem head?_toDigits (n : Nat) (hn : n ≠ 0) : (Nat.toDigits 10 n).head? ≠ some '0' := by
  induction n using Nat.strongRecOn with
  | ind n ih =>
    rw [Nat.toDigits_eq_if (by omega)]
    by_cases h : n < 10
    · rw [if_pos h]
      have hdigit : ∀ d < 10, d ≠ 0 → [d.digitChar].head? ≠ some '0' := by decide
      exact hdigit n h hn
    · rw [if_neg h, List.head?_append_of_ne_nil _ Nat.toDigits_ne_nil]
      exact ih (n / 10) (by omega) (by omega)

theorem toDigits_ne_zero_cons (n : Nat) (c : Char) (cs : List Char) : Nat.toDigits 10 n ≠ '0' :: c :: cs := by
  intro h
  by_cases hn : n = 0
  · subst hn
    cases h
  · exact head?_toDigits n hn (by rw [h]; rfl)

theorem digits_toDigits (n : Nat) {rest : List Char} (hrest : Stops rest) :
    digits (Nat.toDigits 10 n ++ rest) = (Nat.toDigits 10 n, rest) :=
  digits_append (fun _ hc => Nat.isDigit_of_mem_toDigits (by omega) (by omega) hc) hrest

theorem unsignedNumber_toDigits (negative : Bool) (n : Nat)
    (hn : isTooLong (Nat.toDigits 10 n) = false) {rest : List Char} (hrest : Stops rest) :
    unsignedNumber negative (Nat.toDigits 10 n ++ rest) = some (.int (signed negative n), rest) := by
  have hvalue : Nat.ofDigitChars 10 (Nat.toDigits 10 n) 0 = n :=
    Nat.ofDigitChars_toDigits (by omega) (by omega)
  unfold unsignedNumber
  rw [digits_toDigits n hrest]
  split
  · next h => exact absurd (Prod.mk.inj h).1 Nat.toDigits_ne_nil
  · next h => exact absurd (Prod.mk.inj h).1 (toDigits_ne_zero_cons n _ _)
  · next h =>
    obtain ⟨rfl, rfl⟩ := Prod.mk.inj h
    have hguard : (guard (! isTooLong (Nat.toDigits 10 n)) : Option Unit) = some () := by
      rw [hn]
      rfl
    rw [hguard]
    simp [fraction_of_stops hrest, exponent_of_stops hrest, hvalue]

/-- The text of an integer starts with a digit or a minus sign. -/
theorem exists_head_renderInt (n : Int) :
    ∃ c cs, renderInt n = c :: cs ∧ (c.isDigit = true ∨ c = '-' ∧ n < 0) := by
  cases n with
  | ofNat m =>
    cases hd : Nat.toDigits 10 m with
    | nil => exact absurd hd Nat.toDigits_ne_nil
    | cons d ds =>
      have hm : d ∈ Nat.toDigits 10 m := hd ▸ List.mem_cons_self
      exact ⟨d, ds, hd, .inl (Nat.isDigit_of_mem_toDigits (by omega) (by omega) hm)⟩
  | negSucc m => exact ⟨'-', _, rfl, .inr ⟨rfl, Int.negSucc_lt_zero m⟩⟩

theorem number_renderInt (n : Int) (hn : isTooLong (Nat.toDigits 10 n.natAbs) = false)
    {rest : List Char} (hrest : Stops rest) :
    number (renderInt n ++ rest) = some (.int n, rest) := by
  cases n with
  | ofNat m =>
    obtain ⟨c, cs, hcs, hc | ⟨-, hneg⟩⟩ := exists_head_renderInt (.ofNat m)
    · have hm := unsignedNumber_toDigits false m hn hrest
      unfold number
      split
      · next h =>
        rw [hcs, List.cons_append, List.cons.injEq] at h
        rw [h.1] at hc
        cases hc
      · exact hm
    · cases hneg
  | negSucc m => exact unsignedNumber_toDigits true (m + 1) hn hrest

/-! ## Blanks -/

/-- Nothing but blanks. -/
def AllBlank (cs : List Char) : Prop := ∀ c ∈ cs, isBlank c = true

theorem skipBlank_append {bs : List Char} (h : AllBlank bs) (cs : List Char) :
    skipBlank (bs ++ cs) = skipBlank cs := List.dropWhile_append_of_pos h

theorem skipBlank_cons {c : Char} (h : isBlank c = false) (cs : List Char) :
    skipBlank (c :: cs) = c :: cs := by
  simp [skipBlank, h]

theorem stops_cons_of_isBlank {c : Char} (h : isBlank c = true) (cs : List Char) : Stops (c :: cs) := by
  intro d hd
  obtain rfl : c = d := Option.some.inj hd
  simp only [isBlank, Bool.or_eq_true, decide_eq_true_eq] at h
  rcases h with ((rfl | rfl) | rfl) | rfl <;> decide

theorem stops_append {bs : List Char} (h : AllBlank bs) {cs : List Char} (hcs : Stops cs) :
    Stops (bs ++ cs) := by
  cases bs with
  | nil => exact hcs
  | cons b bs => exact stops_cons_of_isBlank (h b List.mem_cons_self) _

theorem stops_comma (cs : List Char) : Stops (',' :: cs) := by
  rintro c ⟨⟩
  decide

theorem stops_bracket (cs : List Char) : Stops (']' :: cs) := by
  rintro c ⟨⟩
  decide

theorem stops_brace (cs : List Char) : Stops ('\x7d' :: cs) := by
  rintro c ⟨⟩
  decide

namespace Layout

theorem allBlank_newline (width level : Nat) : AllBlank (newline width level) := by
  intro c hc
  rcases List.mem_cons.1 hc with rfl | hc
  · rfl
  · rw [List.eq_of_mem_replicate hc]
    rfl

theorem allBlank_opening (layout : Layout) (level : Nat) : AllBlank (layout.opening level) := by
  cases layout with
  | indented width => exact allBlank_newline width level
  | compact | spaced => exact fun c hc => by cases hc

theorem separator_eq (layout : Layout) (level : Nat) :
    ∃ bs, layout.separator level = ',' :: bs ∧ AllBlank bs := by
  cases layout with
  | compact => exact ⟨[], rfl, fun c hc => by cases hc⟩
  | spaced => exact ⟨[' '], rfl, by simp [AllBlank, isBlank]⟩
  | indented width => exact ⟨newline width level, rfl, allBlank_newline width level⟩

theorem colon_eq (layout : Layout) : ∃ bs, layout.colon = ':' :: bs ∧ AllBlank bs := by
  cases layout with
  | compact => exact ⟨[], rfl, fun c hc => by cases hc⟩
  | spaced | indented => exact ⟨[' '], rfl, by simp [AllBlank, isBlank]⟩

end Layout

/-! ## Documents -/

/-- A document without decimals in which at most `depth` arrays and objects are nested and no number has
too many digits. -/
inductive Fits : (depth : Nat) → Json → Prop where
  | null {depth : Nat} : Fits depth .null
  | bool {depth : Nat} (b : Bool) : Fits depth (.bool b)
  | int {depth : Nat} {n : Int} (h : isTooLong (Nat.toDigits 10 n.natAbs) = false) :
      Fits depth (.int n)
  | str {depth : Nat} (s : String) : Fits depth (.str s)
  | arr {depth : Nat} {xs : List Json} (h : ∀ x ∈ xs, Fits depth x) : Fits (depth + 1) (.arr xs)
  | obj {depth : Nat} {ms : List (String × Json)} (h : ∀ m ∈ ms, Fits depth m.2) :
      Fits (depth + 1) (.obj ms)

theorem fits_arr_iff {depth : Nat} {xs : List Json} :
    Fits (depth + 1) (.arr xs) ↔ ∀ x ∈ xs, Fits depth x :=
  ⟨fun h => by cases h; assumption, .arr⟩

theorem fits_obj_iff {depth : Nat} {ms : List (String × Json)} :
    Fits (depth + 1) (.obj ms) ↔ ∀ m ∈ ms, Fits depth m.2 :=
  ⟨fun h => by cases h; assumption, .obj⟩

theorem fits_int_iff {depth : Nat} {n : Int} :
    Fits depth (.int n) ↔ isTooLong (Nat.toDigits 10 n.natAbs) = false :=
  ⟨fun h => by cases h; assumption, .int⟩

instance decidableFits : (depth : Nat) → (j : Json) → Decidable (Fits depth j)
  | _, .null => isTrue .null
  | _, .bool b => isTrue (.bool b)
  | _, .int _ => decidable_of_iff _ fits_int_iff.symm
  | _, .decimal _ => isFalse (fun h => by cases h)
  | _, .str s => isTrue (.str s)
  | 0, .arr _ => isFalse (fun h => by cases h)
  | 0, .obj _ => isFalse (fun h => by cases h)
  | depth + 1, .arr xs =>
    have (x : Json) := decidableFits depth x
    decidable_of_iff (∀ x ∈ xs, Fits depth x) fits_arr_iff.symm
  | depth + 1, .obj ms =>
    have (m : String × Json) := decidableFits depth m.2
    decidable_of_iff (∀ m ∈ ms, Fits depth m.2) fits_obj_iff.symm

/-- The text of a document starts with neither a blank nor a closing bracket. -/
theorem Fits.exists_head {depth : Nat} {j : Json} (h : Fits depth j) (layout : Layout) (level : Nat) :
    ∃ c cs, renderAt layout level j = c :: cs ∧ isBlank c = false ∧ c ≠ ']' := by
  cases h with
  | null => exact ⟨'n', _, rfl, by decide⟩
  | bool b => cases b <;> exact ⟨_, _, rfl, by decide⟩
  | @int _ n _ =>
    obtain ⟨c, cs, hcs, hc⟩ := exists_head_renderInt n
    refine ⟨c, cs, hcs, ?_⟩
    rcases hc with hc | ⟨rfl, -⟩
    · refine ⟨?_, by rintro rfl; cases hc⟩
      rw [← Bool.not_eq_true]
      intro hb
      simp only [isBlank, Bool.or_eq_true, decide_eq_true_eq] at hb
      rcases hb with ((rfl | rfl) | rfl) | rfl <;> cases hc
    · decide
  | str s => exact ⟨'"', _, rfl, by decide⟩
  | @arr _ xs _ => cases xs <;> exact ⟨'[', _, rfl, by decide⟩
  | @obj _ ms _ => cases ms <;> exact ⟨'\x7b', _, rfl, by decide⟩

/-- Whatever follows that stops it, the text of the document is read back, given fuel for each of its
characters. -/
def IsReadBack (layout : Layout) (depth : Nat) (j : Json) : Prop :=
  ∀ level fuel rest, Stops rest → 2 * (renderAt layout level j).length + 1 ≤ fuel →
    value fuel depth (renderAt layout level j ++ rest) = some (j, rest)

theorem items_renderItems {layout : Layout} {depth level : Nat} {close : List Char}
    (hclose : AllBlank close) (rest : List Char) (xs : List Json) :
    ∀ (x : Json) (fuel : Nat), (∀ y ∈ x :: xs, Fits depth y ∧ IsReadBack layout depth y) →
      2 * (renderAt layout level x ++ renderItems layout level xs).length + 2 ≤ fuel →
      items fuel depth (renderAt layout level x ++ (renderItems layout level xs ++ (close ++ ']' :: rest))) =
        some (x :: xs, rest) := by
  induction xs with
  | nil =>
    intro x fuel hx hfuel
    obtain ⟨fuel, rfl⟩ : ∃ k, fuel = k + 1 := ⟨fuel - 1, by omega⟩
    have hstops : Stops (close ++ ']' :: rest) := stops_append hclose (stops_bracket rest)
    simp only [renderItems, List.append_nil] at hfuel
    have hvalue := (hx x List.mem_cons_self).2 level fuel _ hstops (by omega)
    have hskip : skipBlank (close ++ ']' :: rest) = ']' :: rest := by
      rw [skipBlank_append hclose, skipBlank_cons (by decide)]
    simp only [items, renderItems, List.nil_append, hvalue, hskip]
  | cons y ys ih =>
    intro x fuel hx hfuel
    obtain ⟨fuel, rfl⟩ : ∃ k, fuel = k + 1 := ⟨fuel - 1, by omega⟩
    obtain ⟨bs, hsep, hbs⟩ := layout.separator_eq level
    simp only [renderItems, hsep, List.length_append, List.length_cons] at hfuel
    obtain ⟨c, cs, hy, hc, -⟩ := (hx y (by simp)).1.exists_head layout level
    have hstops : Stops (renderItems layout level (y :: ys) ++ (close ++ ']' :: rest)) := by
      rw [renderItems, hsep]
      exact stops_comma _
    have hvalue := (hx x List.mem_cons_self).2 level fuel _ hstops (by omega)
    have hitems := ih y fuel (fun z hz => hx z (List.mem_cons_of_mem _ hz))
      (by simp only [List.length_append]; omega)
    have htail : renderItems layout level (y :: ys) ++ (close ++ ']' :: rest) =
        ',' :: (bs ++ (renderAt layout level y ++ (renderItems layout level ys ++ (close ++ ']' :: rest)))) := by
      simp [renderItems, hsep]
    have hskip : skipBlank (bs ++ (renderAt layout level y ++
        (renderItems layout level ys ++ (close ++ ']' :: rest)))) =
          renderAt layout level y ++ (renderItems layout level ys ++ (close ++ ']' :: rest)) := by
      rw [skipBlank_append hbs, hy, List.cons_append, skipBlank_cons hc]
    have hcomma (r : List Char) : skipBlank (',' :: r) = ',' :: r := skipBlank_cons (by decide) r
    simp only [items, hvalue]
    simp only [htail, hcomma, hskip, hitems, Option.map_some]

/-- Reading one member, by what follows its value. -/
theorem members_renderMember {layout : Layout} {depth level fuel : Nat} (k : String) {x : Json}
    (hx : Fits depth x) {rest : List Char}
    (hvalue : value fuel depth (renderAt layout level x ++ rest) = some (x, rest)) :
    let cs := renderString k ++ (layout.colon ++ (renderAt layout level x ++ rest))
    (∀ r, skipBlank rest = ',' :: r → members (fuel + 1) depth cs =
        (members fuel depth (skipBlank r)).map fun (ms, rest) => ((k, x) :: ms, rest)) ∧
      ∀ r, skipBlank rest = '\x7d' :: r → members (fuel + 1) depth cs = some ([(k, x)], r) := by
  obtain ⟨bs, hcolon, hbs⟩ := layout.colon_eq
  obtain ⟨c, cs, hhead, hc, -⟩ := hx.exists_head layout level
  have hkey : renderString k ++ (layout.colon ++ (renderAt layout level x ++ rest)) =
      '"' :: (k.toList.flatMap escapeChar ++ '"' :: (':' :: (bs ++ (renderAt layout level x ++ rest)))) := by
    simp [renderString, hcolon]
  have hskipColon (r : List Char) : skipBlank (':' :: r) = ':' :: r := skipBlank_cons (by decide) r
  have hskip : skipBlank (bs ++ (renderAt layout level x ++ rest)) = renderAt layout level x ++ rest := by
    rw [skipBlank_append hbs, hhead, List.cons_append, skipBlank_cons hc]
  refine ⟨fun r hr => ?_, fun r hr => ?_⟩
  · simp only [hkey, members, string_escaped, hskipColon, hskip, hvalue, hr]
  · simp only [hkey, members, string_escaped, hskipColon, hskip, hvalue, hr]

theorem members_renderMembers {layout : Layout} {depth level : Nat} {close : List Char}
    (hclose : AllBlank close) (rest : List Char) (ms : List (String × Json)) :
    ∀ (k : String) (x : Json) (fuel : Nat),
      (∀ m ∈ (k, x) :: ms, Fits depth m.2 ∧ IsReadBack layout depth m.2) →
      2 * (renderAt layout level x ++ renderMembers layout level ms).length + 2 ≤ fuel →
      members fuel depth (renderString k ++ (layout.colon ++ (renderAt layout level x ++
          (renderMembers layout level ms ++ (close ++ '\x7d' :: rest))))) =
        some ((k, x) :: ms, rest) := by
  induction ms with
  | nil =>
    intro k x fuel hx hfuel
    obtain ⟨fuel, rfl⟩ : ∃ n, fuel = n + 1 := ⟨fuel - 1, by omega⟩
    obtain ⟨hfits, hback⟩ : Fits depth x ∧ IsReadBack layout depth x := hx (k, x) List.mem_cons_self
    have hstops : Stops (close ++ '\x7d' :: rest) := stops_append hclose (stops_brace rest)
    simp only [renderMembers, List.append_nil] at hfuel
    have hvalue := hback level fuel _ hstops (by omega)
    have hskip : skipBlank (close ++ '\x7d' :: rest) = '\x7d' :: rest := by
      rw [skipBlank_append hclose, skipBlank_cons (by decide)]
    rw [renderMembers, List.nil_append]
    exact (members_renderMember k hfits hvalue).2 rest hskip
  | cons m ms ih =>
    obtain ⟨l, y⟩ := m
    intro k x fuel hx hfuel
    obtain ⟨fuel, rfl⟩ : ∃ n, fuel = n + 1 := ⟨fuel - 1, by omega⟩
    obtain ⟨bs, hsep, hbs⟩ := layout.separator_eq level
    simp only [renderMembers, hsep, List.length_append, List.length_cons] at hfuel
    obtain ⟨hfits, hback⟩ : Fits depth x ∧ IsReadBack layout depth x := hx (k, x) List.mem_cons_self
    have hmembers := ih l y fuel (fun z hz => hx z (List.mem_cons_of_mem _ hz))
      (by simp only [List.length_append]; omega)
    have htail : renderMembers layout level ((l, y) :: ms) ++ (close ++ '\x7d' :: rest) =
        ',' :: (bs ++ (renderString l ++ (layout.colon ++ (renderAt layout level y ++
          (renderMembers layout level ms ++ (close ++ '\x7d' :: rest)))))) := by
      simp [renderMembers, hsep]
    have hvalue := hback level fuel _ (htail ▸ stops_comma _) (by omega)
    have hskip (r : List Char) : skipBlank (bs ++ (renderString l ++ r)) = renderString l ++ r := by
      rw [skipBlank_append hbs, renderString, List.cons_append, skipBlank_cons (by decide)]
    have hcomma (r : List Char) : skipBlank (',' :: r) = ',' :: r := skipBlank_cons (by decide) r
    rw [(members_renderMember k hfits hvalue).1 _ ((congrArg skipBlank htail).trans (hcomma _))]
    simp only [hskip, hmembers, Option.map_some]

/-! ## Values -/

theorem value_array {fuel depth : Nat} {cs : List Char} {c : Char} {rest : List Char}
    (h : skipBlank cs = c :: rest) (hc : c ≠ ']') :
    value (fuel + 1) (depth + 1) ('[' :: cs) =
      (items fuel depth (c :: rest)).map fun (xs, rest) => (.arr xs, rest) := by
  simp [value, h, hc]

theorem value_object {fuel depth : Nat} {cs : List Char} {c : Char} {rest : List Char}
    (h : skipBlank cs = c :: rest) (hc : c ≠ '\x7d') :
    value (fuel + 1) (depth + 1) ('\x7b' :: cs) =
      (members fuel depth (c :: rest)).map fun (ms, rest) => (.obj ms, rest) := by
  simp [value, h, hc]

theorem value_renderInt (n : Int) (fuel depth : Nat) (rest : List Char) :
    value (fuel + 1) depth (renderInt n ++ rest) = number (renderInt n ++ rest) := by
  obtain ⟨c, cs, hcs, hc⟩ := exists_head_renderInt n
  rw [hcs, List.cons_append]
  unfold value
  split <;> simp_all

/-- To read a value takes at least one step. -/
theorem isReadBack_of_succ {layout : Layout} {depth : Nat} {j : Json}
    (h : ∀ (level fuel : Nat) (rest : List Char), Stops rest →
      2 * (renderAt layout level j).length + 1 ≤ fuel + 1 →
      value (fuel + 1) depth (renderAt layout level j ++ rest) = some (j, rest)) :
    IsReadBack layout depth j := by
  intro level fuel rest hrest hfuel
  obtain ⟨fuel, rfl⟩ : ∃ n, fuel = n + 1 := ⟨fuel - 1, by omega⟩
  exact h level fuel rest hrest hfuel

theorem isReadBack_arr {layout : Layout} {depth : Nat} {xs : List Json}
    (h : ∀ x ∈ xs, Fits depth x ∧ IsReadBack layout depth x) :
    IsReadBack layout (depth + 1) (.arr xs) := by
  refine isReadBack_of_succ fun level fuel rest _ hfuel => ?_
  cases xs with
  | nil => simp [renderAt, value, skipBlank, isBlank]
  | cons x xs =>
    obtain ⟨c, cs, hx, hc, hbracket⟩ := (h x List.mem_cons_self).1.exists_head layout (level + 1)
    have htext : renderAt layout level (.arr (x :: xs)) ++ rest =
        '[' :: (layout.opening (level + 1) ++ (renderAt layout (level + 1) x ++
          (renderItems layout (level + 1) xs ++ (layout.closing level ++ ']' :: rest)))) := by
      simp [renderAt]
    simp only [renderAt, List.length_append, List.length_cons] at hfuel
    have hlength : 2 * (renderAt layout (level + 1) x ++ renderItems layout (level + 1) xs).length + 2 ≤
        fuel := by
      simp only [List.length_append]
      omega
    have hitems := items_renderItems (layout.allBlank_opening level) rest xs x fuel h hlength
    rw [hx, List.cons_append] at hitems
    rw [htext, hx, List.cons_append,
      value_array ((skipBlank_append (layout.allBlank_opening _) _).trans (skipBlank_cons hc _)) hbracket]
    exact congrArg (Option.map _) hitems

theorem isReadBack_obj {layout : Layout} {depth : Nat} {ms : List (String × Json)}
    (h : ∀ m ∈ ms, Fits depth m.2 ∧ IsReadBack layout depth m.2) :
    IsReadBack layout (depth + 1) (.obj ms) := by
  refine isReadBack_of_succ fun level fuel rest _ hfuel => ?_
  cases ms with
  | nil => simp [renderAt, value, skipBlank, isBlank]
  | cons m ms =>
    obtain ⟨k, x⟩ := m
    have htext : renderAt layout level (.obj ((k, x) :: ms)) ++ rest =
        '\x7b' :: (layout.opening (level + 1) ++ (renderString k ++ (layout.colon ++
          (renderAt layout (level + 1) x ++ (renderMembers layout (level + 1) ms ++
            (layout.closing level ++ '\x7d' :: rest)))))) := by
      simp [renderAt]
    simp only [renderAt, List.length_append, List.length_cons] at hfuel
    have hlength : 2 * (renderAt layout (level + 1) x ++ renderMembers layout (level + 1) ms).length + 2 ≤
        fuel := by
      simp only [List.length_append]
      omega
    have hmembers := members_renderMembers (layout.allBlank_opening level) rest ms k x fuel h hlength
    rw [renderString, List.cons_append] at hmembers
    rw [htext, renderString, List.cons_append,
      value_object ((skipBlank_append (layout.allBlank_opening _) _).trans
        (skipBlank_cons (by decide) _)) (by decide)]
    exact congrArg (Option.map _) hmembers

theorem Fits.isReadBack {depth : Nat} {j : Json} (h : Fits depth j) (layout : Layout) :
    IsReadBack layout depth j := by
  induction h with
  | null => exact isReadBack_of_succ fun level fuel rest _ _ => by simp [renderAt, value]
  | bool b =>
    refine isReadBack_of_succ fun level fuel rest _ _ => ?_
    cases b <;> simp [renderAt, value]
  | int hn =>
    refine isReadBack_of_succ fun level fuel rest hrest _ => ?_
    rw [renderAt, value_renderInt, number_renderInt _ hn hrest]
  | str s =>
    refine isReadBack_of_succ fun level fuel rest _ _ => ?_
    have htext : renderAt layout level (.str s) ++ rest =
        '"' :: (s.toList.flatMap escapeChar ++ '"' :: rest) := by
      simp [renderAt, renderString]
    rw [htext]
    simp [value, string_escaped]
  | arr hxs ih => exact isReadBack_arr fun x hx => ⟨hxs x hx, ih x hx⟩
  | obj hms ih => exact isReadBack_obj fun m hm => ⟨hms m hm, ih m hm⟩

/-- The text of a document, with blanks after it, is read as the document. -/
theorem parse_render (layout : Layout) {j : Json} (h : Fits maxDepth j) {bs : List Char}
    (hbs : AllBlank bs) : parse (render layout j ++ String.ofList bs) = some j := by
  obtain ⟨c, cs, hhead, hc, -⟩ := h.exists_head layout 0
  have hstops : Stops bs := List.append_nil bs ▸ stops_append hbs (fun c hc => by cases hc)
  have hskip : skipBlank bs = [] := by
    rw [← List.append_nil bs, skipBlank_append hbs]
    rfl
  have hvalue := h.isReadBack layout 0 (2 * (renderAt layout 0 j ++ bs).length + 2) bs hstops
    (by simp only [List.length_append]; omega)
  have hstart : skipBlank (renderAt layout 0 j ++ bs) = renderAt layout 0 j ++ bs := by
    rw [hhead, List.cons_append, skipBlank_cons hc]
  simp only [parse, parseWithin, render, String.toList_append, String.toList_ofList, hstart, hvalue,
    hskip, ↓reduceIte]

theorem parse_render_self (layout : Layout) {j : Json} (h : Fits maxDepth j) :
    parse (render layout j) = some j := by
  have hbs : AllBlank [] := nofun
  simpa using parse_render layout h hbs

end Json

end CatalogSchema
