import Mathlib
import Conveyor.Proofs.Resolution

/-!
# Expanding variable references

Expansion reads a text once, left to right, as the regular expression
`\$(?:\{NAME\}|NAME)` with `NAME = [A-Za-z_][A-Za-z0-9_]*` finds its matches: at each `$` a
braced name is tried first and then the longest bare name; any other character, and a `$`
that starts neither, is copied. `Scan` states that reading as rules, one per kind of step,
independently of the scanner; every text has exactly one reading (`Scan.exists`,
`Scan.unique`).

Each reference found is then replaced by the variable's value when the variable is set and
otherwise left as written, and the pieces are joined (`Piece.render`). Replaced text is
never read again, since the reading is done before anything is replaced. So a text whose
referenced variables are all unset comes back as it was, and the result depends only on the
variables the text refers to (`expand_is_one_scan`).
-/

namespace Conveyor.Env

set_option autoImplicit false

/-! ## One reading of a text -/

def IsName (name : List Char) : Prop :=
  ∃ c rest, name = c :: rest ∧ isNameStart c = true ∧ ∀ d ∈ rest, isNameChar d = true

def ReferenceAt (cs : List Char) : Prop :=
  ∃ name rest : List Char, IsName name ∧
    (cs = '$' :: '{' :: (name ++ '}' :: rest) ∨ cs = '$' :: (name ++ rest))

/-- The pieces a left-to-right scan cuts a text into: a braced reference when one starts
here, else a bare reference with the longest name, else one character as it is. -/
inductive Scan : List Char → List Piece → Prop
  | done : Scan [] []
  | braced {name rest : List Char} {ps : List Piece} : IsName name → Scan rest ps →
      Scan ('$' :: '{' :: (name ++ '}' :: rest))
        (.reference (String.ofList name) ("$\x7b" ++ String.ofList name ++ "\x7d") :: ps)
  | bare {name rest : List Char} {ps : List Piece} : IsName name →
      (∀ c ∈ rest.head?, isNameChar c = false) → Scan rest ps →
      Scan ('$' :: (name ++ rest)) (.reference (String.ofList name) ("$" ++ String.ofList name) :: ps)
  | copy {c : Char} {rest : List Char} {ps : List Piece} : ¬ ReferenceAt (c :: rest) →
      Scan rest ps → Scan (c :: rest) (.plain (String.singleton c) :: ps)

theorem IsName.name_chars {name : List Char} (named : IsName name) : ∀ d ∈ name, isNameChar d = true := by
  obtain ⟨c, rest, rfl, start, chars⟩ := named
  intro d mem
  rcases List.mem_cons.mp mem with rfl | later
  · simp [isNameChar, start]
  · exact chars d later

theorem is_name_char_brace : isNameChar '}' = false := by decide

theorem is_name_start_open : isNameStart '{' = false := by decide

theorem take_while_of_run {p : Char → Bool} {run rest : List Char} (inRun : ∀ d ∈ run, p d = true)
    (stops : ∀ c ∈ rest.head?, p c = false) : (run ++ rest).takeWhile p = run := by
  rw [List.takeWhile_append_of_pos inRun]
  cases rest with
  | nil => simp
  | cons c rest => simp [stops c rfl]

theorem drop_take_while_length (p : Char → Bool) (l : List Char) :
    l.drop (l.takeWhile p).length = l.dropWhile p := by
  calc l.drop (l.takeWhile p).length
      = (l.takeWhile p ++ l.dropWhile p).drop (l.takeWhile p).length := by
        rw [List.takeWhile_append_dropWhile]
    _ = l.dropWhile p := List.drop_left

theorem head_drop_while {p : Char → Bool} (l : List Char) : ∀ c ∈ (l.dropWhile p).head?, p c = false := by
  intro c mem
  have stops := List.head?_dropWhile_not p l
  rw [Option.mem_def.mp mem] at stops
  exact stops

theorem braced_name_eq {name rest name' rest' : List Char} (named : IsName name) (named' : IsName name')
    (same : name ++ '}' :: rest = name' ++ '}' :: rest') : name = name' ∧ rest = rest' := by
  have stop : ∀ c ∈ ('}' :: rest).head?, isNameChar c = false := by simp [is_name_char_brace]
  have stop' : ∀ c ∈ ('}' :: rest').head?, isNameChar c = false := by simp [is_name_char_brace]
  have names : name = name' := by
    rw [← take_while_of_run named.name_chars stop, same, take_while_of_run named'.name_chars stop']
  subst names
  exact ⟨rfl, by simpa using same⟩

theorem bare_name_eq {name rest name' rest' : List Char} (named : IsName name) (named' : IsName name')
    (stop : ∀ c ∈ rest.head?, isNameChar c = false) (stop' : ∀ c ∈ rest'.head?, isNameChar c = false)
    (same : name ++ rest = name' ++ rest') : name = name' ∧ rest = rest' := by
  have names : name = name' := by
    rw [← take_while_of_run named.name_chars stop, same, take_while_of_run named'.name_chars stop']
  subst names
  exact ⟨rfl, by simpa using same⟩

theorem reference_at_braced {name rest : List Char} (named : IsName name) :
    ReferenceAt ('$' :: '{' :: (name ++ '}' :: rest)) :=
  ⟨name, rest, named, .inl rfl⟩

theorem reference_at_bare {name rest : List Char} (named : IsName name) :
    ReferenceAt ('$' :: (name ++ rest)) :=
  ⟨name, rest, named, .inr rfl⟩

theorem Scan.inv {cs : List Char} {ps : List Piece} (scan : Scan cs ps) :
    (cs = [] ∧ ps = []) ∨
      (∃ name rest qs, IsName name ∧ Scan rest qs ∧ cs = '$' :: '{' :: (name ++ '}' :: rest) ∧
        ps = .reference (String.ofList name) ("$\x7b" ++ String.ofList name ++ "\x7d") :: qs) ∨
      (∃ name rest qs, IsName name ∧ (∀ c ∈ rest.head?, isNameChar c = false) ∧ Scan rest qs ∧
        cs = '$' :: (name ++ rest) ∧ ps = .reference (String.ofList name) ("$" ++ String.ofList name) :: qs) ∨
      (∃ c rest qs, ¬ ReferenceAt (c :: rest) ∧ Scan rest qs ∧ cs = c :: rest ∧
        ps = .plain (String.singleton c) :: qs) := by
  cases scan with
  | done => exact .inl ⟨rfl, rfl⟩
  | braced named rest => exact .inr (.inl ⟨_, _, _, named, rest, rfl, rfl⟩)
  | bare named stop rest => exact .inr (.inr (.inl ⟨_, _, _, named, stop, rest, rfl, rfl⟩))
  | copy plain rest => exact .inr (.inr (.inr ⟨_, _, _, plain, rest, rfl, rfl⟩))

theorem not_braced_bare {name rest name' rest' : List Char} (named' : IsName name')
    (same : '{' :: (name ++ '}' :: rest) = name' ++ rest') : False := by
  obtain ⟨c, more, rfl, start, -⟩ := named'
  simp only [List.cons_append, List.cons.injEq] at same
  rw [← same.1, is_name_start_open] at start
  cases start

theorem Scan.unique {cs : List Char} {ps qs : List Piece} (first : Scan cs ps) (second : Scan cs qs) :
    ps = qs := by
  induction first generalizing qs with
  | done =>
    rcases second.inv with ⟨-, rfl⟩ | ⟨_, _, _, -, -, nope, -⟩ | ⟨_, _, _, -, -, -, nope, -⟩ |
      ⟨_, _, _, -, -, nope, -⟩
    · rfl
    all_goals simp at nope
  | @braced name rest ps named _ ih =>
    rcases second.inv with ⟨nope, -⟩ | ⟨name', rest', qs, named', scan', same, rfl⟩ |
      ⟨name', rest', qs, named', -, -, same, -⟩ | ⟨c, rest', qs, plain, -, same, -⟩
    · simp at nope
    · simp only [List.cons.injEq, true_and] at same
      obtain ⟨rfl, rfl⟩ := braced_name_eq named named' same
      rw [ih scan']
    · simp only [List.cons.injEq, true_and] at same
      exact (not_braced_bare named' same).elim
    · exact absurd (same ▸ reference_at_braced named) plain
  | @bare name rest ps named stop _ ih =>
    rcases second.inv with ⟨nope, -⟩ | ⟨name', rest', qs, -, -, same, -⟩ |
      ⟨name', rest', qs, named', stop', scan', same, rfl⟩ | ⟨c, rest', qs, plain, -, same, -⟩
    · simp at nope
    · simp only [List.cons.injEq, true_and] at same
      exact (not_braced_bare named same.symm).elim
    · simp only [List.cons.injEq, true_and] at same
      obtain ⟨rfl, rfl⟩ := bare_name_eq named named' stop stop' same
      rw [ih scan']
    · exact absurd (same ▸ reference_at_bare named) plain
  | @copy c rest ps plain _ ih =>
    rcases second.inv with ⟨nope, -⟩ | ⟨name', rest', qs, named', -, same, -⟩ |
      ⟨name', rest', qs, named', -, -, same, -⟩ | ⟨c', rest', qs, -, scan', same, rfl⟩
    · simp at nope
    · exact absurd (same ▸ reference_at_braced named') plain
    · exact absurd (same ▸ reference_at_bare named') plain
    · simp only [List.cons.injEq] at same
      obtain ⟨rfl, rfl⟩ := same
      rw [ih scan']

/-- Every text has a reading: at a `$` that starts a bare reference the reading takes the
longest name. -/
theorem Scan.exists (cs : List Char) : ∃ ps, Scan cs ps := by
  induction hlen : cs.length using Nat.strong_induction_on generalizing cs with
  | _ n ih =>
    cases cs with
    | nil => exact ⟨[], .done⟩
    | cons c rest =>
      by_cases ref : ReferenceAt (c :: rest)
      · obtain ⟨name, rest', named, braced | bare⟩ := ref
        · obtain ⟨ps, scan⟩ := ih rest'.length (by rw [← hlen, braced]; simp; omega) rest' rfl
          rw [braced]
          exact ⟨_, .braced named scan⟩
        · -- the longest name starting here
          obtain ⟨d, more, rfl, start, -⟩ := named
          simp only [List.cons_append, List.cons.injEq] at bare
          obtain ⟨rfl, rfl⟩ := bare
          have longest : IsName (d :: (more ++ rest').takeWhile isNameChar) :=
            ⟨d, _, rfl, start, fun x mem => List.mem_takeWhile_imp mem⟩
          have shorter : ((more ++ rest').dropWhile isNameChar).length < n := by
            have := (List.dropWhile_sublist (p := isNameChar) (l := more ++ rest')).length_le
            simp only [← hlen, List.length_cons, List.length_append] at this ⊢
            omega
          obtain ⟨ps, scan⟩ := ih _ shorter _ rfl
          have split : '$' :: d :: (more ++ rest') =
              '$' :: ((d :: (more ++ rest').takeWhile isNameChar) ++ (more ++ rest').dropWhile isNameChar) := by
            simp
          rw [split]
          exact ⟨_, .bare longest (head_drop_while _) scan⟩
      · obtain ⟨ps, scan⟩ := ih rest.length (by simp [← hlen]) rest rfl
        exact ⟨_, .copy ref scan⟩

/-! ## The scanner reads a text that way -/

theorem go_braced {name rest : List Char} (named : IsName name) (fuel : Nat) (acc : List Piece) :
    pieces.go (fuel + 1) ('$' :: '{' :: (name ++ '}' :: rest)) acc =
      pieces.go fuel rest
        (.reference (String.ofList name) ("$\x7b" ++ String.ofList name ++ "\x7d") :: acc) := by
  have closed : ∀ c ∈ ('}' :: rest).head?, isNameChar c = false := by simp [is_name_char_brace]
  have taken := take_while_of_run named.name_chars closed
  obtain ⟨c, more, rfl, start, -⟩ := named
  rw [pieces.go.eq_3, taken, List.drop_left]
  simp [start]

theorem go_bare {name rest : List Char} (named : IsName name)
    (stop : ∀ c ∈ rest.head?, isNameChar c = false) (fuel : Nat) (acc : List Piece) :
    pieces.go (fuel + 1) ('$' :: (name ++ rest)) acc =
      pieces.go fuel rest (.reference (String.ofList name) ("$" ++ String.ofList name) :: acc) := by
  obtain ⟨c, more, rfl, start, chars⟩ := named
  have taken := take_while_of_run chars stop
  have notBrace : c ≠ '{' := by
    rintro rfl
    simp [is_name_start_open] at start
  rw [List.cons_append, pieces.go.eq_4 _ _ _ _ notBrace]
  simp [start, taken]

theorem go_copy {c : Char} {rest : List Char} (plain : ¬ ReferenceAt (c :: rest)) (fuel : Nat)
    (acc : List Piece) : pieces.go (fuel + 1) (c :: rest) acc = pieces.go fuel rest (pushChar c acc) := by
  by_cases dollar : c = '$'
  · subst dollar
    cases rest with
    | nil => rw [pieces.go.eq_5] <;> simp
    | cons d r =>
      by_cases brace : d = '{'
      · -- a run of name characters closed by a brace would be a braced reference
        subst brace
        rw [pieces.go.eq_3]
        split
        · rename_i e tail tail' taken after
          split
          · rename_i start
            have split : r = (e :: tail) ++ '}' :: tail' := by
              rw [← taken, ← after, drop_take_while_length, List.takeWhile_append_dropWhile]
            have named : IsName (e :: tail) := ⟨e, tail, rfl, start, fun x mem =>
              List.mem_takeWhile_imp (by rw [taken]; exact List.mem_cons_of_mem e mem)⟩
            exact absurd ⟨e :: tail, tail', named, .inl (by rw [split])⟩ plain
          · rfl
        · rfl
      · -- a name start after the `$` would be a bare reference
        rw [pieces.go.eq_4 _ _ _ _ brace]
        split
        · rename_i start
          exact absurd ⟨[d], r, ⟨d, [], rfl, start, by simp⟩, .inr rfl⟩ plain
        · rfl
  · rw [pieces.go.eq_5] <;> simp [dollar]

/-- Pieces pushed onto the pieces read so far, last first, as the scanner adds them: plain
text joins the plain text before it. -/
def Piece.push : Piece → List Piece → List Piece
  | .plain t, acc => pushText t.toList acc
  | .reference name written, acc => .reference name written :: acc

def Piece.pushAll (ps : List Piece) (acc : List Piece) : List Piece :=
  ps.foldl (fun acc p => p.push acc) acc

theorem Piece.push_all_cons (p : Piece) (ps acc : List Piece) :
    Piece.pushAll (p :: ps) acc = Piece.pushAll ps (p.push acc) := rfl

theorem push_plain_singleton (c : Char) (acc : List Piece) :
    Piece.push (.plain (String.singleton c)) acc = pushChar c acc := by
  simp [Piece.push, pushText]

theorem go_of_scan {cs : List Char} {ps : List Piece} (scan : Scan cs ps) :
    ∀ (fuel : Nat) (acc : List Piece), cs.length < fuel → pieces.go fuel cs acc = Piece.pushAll ps acc := by
  induction scan with
  | done =>
    intro fuel acc _
    cases fuel with
    | zero => rfl
    | succ fuel => rfl
  | @braced name rest ps named _ ih =>
    intro fuel acc enough
    obtain ⟨fuel, rfl⟩ : ∃ f, fuel = f + 1 := ⟨fuel - 1, by omega⟩
    rw [go_braced named, ih fuel _ (by simp at enough; omega)]
    rfl
  | @bare name rest ps named stop _ ih =>
    intro fuel acc enough
    obtain ⟨fuel, rfl⟩ : ∃ f, fuel = f + 1 := ⟨fuel - 1, by omega⟩
    rw [go_bare named stop, ih fuel _ (by simp at enough; omega)]
    rfl
  | @copy c rest ps plain _ ih =>
    intro fuel acc enough
    obtain ⟨fuel, rfl⟩ : ∃ f, fuel = f + 1 := ⟨fuel - 1, by simp at enough; omega⟩
    rw [go_copy plain, ih fuel _ (by simp at enough; omega), Piece.push_all_cons, push_plain_singleton]

theorem pieces_of_scan {s : String} {ps : List Piece} (scan : Scan s.toList ps) :
    pieces s = (Piece.pushAll ps []).reverse := by
  rw [pieces, go_of_scan scan _ _ (by simp [String.length_toList])]

/-! ## Replacing the references -/

def Piece.render (env : Vars) : Piece → String
  | .plain t => t
  | .reference name written => (env.get? name).getD written

def Piece.renderAll (env : Vars) (ps : List Piece) : String :=
  String.join (ps.map (Piece.render env))

def Piece.name? : Piece → Option String
  | .plain _ => none
  | .reference name _ => some name

def Piece.names (ps : List Piece) : List String :=
  ps.filterMap Piece.name?

@[simp] theorem Piece.names_nil : Piece.names [] = [] := rfl

@[simp] theorem Piece.names_plain (t : String) (ps : List Piece) :
    Piece.names (.plain t :: ps) = Piece.names ps := rfl

@[simp] theorem Piece.names_reference (name written : String) (ps : List Piece) :
    Piece.names (.reference name written :: ps) = name :: Piece.names ps := rfl

@[simp] theorem render_all_cons (env : Vars) (p : Piece) (ps : List Piece) :
    Piece.renderAll env (p :: ps) = p.render env ++ Piece.renderAll env ps := by
  simp [Piece.renderAll]

theorem render_all_append (env : Vars) (ps qs : List Piece) :
    Piece.renderAll env (ps ++ qs) = Piece.renderAll env ps ++ Piece.renderAll env qs := by
  simp [Piece.renderAll, String.join_append]

theorem render_all_singleton (env : Vars) (p : Piece) : Piece.renderAll env [p] = p.render env := by
  simp [Piece.renderAll]

theorem render_all_push_char (env : Vars) (c : Char) (acc : List Piece) :
    Piece.renderAll env (pushChar c acc).reverse =
      Piece.renderAll env acc.reverse ++ String.singleton c := by
  cases acc with
  | nil => simp [pushChar, Piece.renderAll, Piece.render]
  | cons p rest =>
    cases p with
    | plain t =>
      simp only [pushChar, List.reverse_cons, render_all_append, render_all_singleton, Piece.render,
        String.push_eq_append, String.append_assoc]
    | reference name written =>
      simp only [pushChar, List.reverse_cons, render_all_append, render_all_singleton, Piece.render]

theorem render_all_push_text (env : Vars) (cs : List Char) (acc : List Piece) :
    Piece.renderAll env (pushText cs acc).reverse = Piece.renderAll env acc.reverse ++ String.ofList cs := by
  induction cs generalizing acc with
  | nil => simp [pushText]
  | cons c cs ih =>
    have step : pushText (c :: cs) acc = pushText cs (pushChar c acc) := rfl
    rw [step, ih, render_all_push_char, String.append_assoc, ← String.ofList_cons]

theorem render_all_push_all (env : Vars) (ps acc : List Piece) :
    Piece.renderAll env (Piece.pushAll ps acc).reverse =
      Piece.renderAll env acc.reverse ++ Piece.renderAll env ps := by
  induction ps generalizing acc with
  | nil => simp [Piece.pushAll, Piece.renderAll]
  | cons p ps ih =>
    rw [Piece.push_all_cons, ih, ← List.singleton_append, render_all_append env [p] ps,
      render_all_singleton, ← String.append_assoc]
    cases p with
    | plain t => rw [Piece.push, render_all_push_text, String.ofList_toList, Piece.render]
    | reference name written =>
      rw [Piece.push, List.reverse_cons, render_all_append, render_all_singleton]

theorem join_parts_go_strs (ts : List String) (index : Nat) (acc : String) :
    joinParts.go index acc (ts.map Value.str) = .ok (acc ++ String.join ts) := by
  induction ts generalizing index acc with
  | nil => simp [joinParts.go]
  | cons t ts ih => simp [joinParts.go, ih, String.append_assoc]

theorem expand_of_vars_eq (env : Vars) (s : String) :
    expand (Environment.ofVars env) s = .ok (Piece.renderAll env (pieces s)) := by
  unfold expand joinParts
  rw [List.filterMap_congr (g := some ∘ Value.str ∘ Piece.render env), List.filterMap_eq_map,
    ← List.map_map, join_parts_go_strs]
  · simp [Piece.renderAll]
  · intro p _
    cases p with
    | plain t => rfl
    | reference name written =>
      cases found : env.get? name <;> simp [Environment.get?_of_vars, found, Piece.render]

theorem Scan.spells {cs : List Char} {ps : List Piece} (scan : Scan cs ps) (env : Vars)
    (unset : ∀ name ∈ Piece.names ps, env.get? name = none) :
    Piece.renderAll env ps = String.ofList cs := by
  induction scan with
  | done => rfl
  | @braced name rest ps _ _ ih =>
    simp only [Piece.names_reference, List.mem_cons, forall_eq_or_imp] at unset
    rw [render_all_cons, ih unset.2, Piece.render, unset.1]
    simp [String.ofList_append, String.append_assoc]
    rfl
  | @bare name rest ps _ _ _ ih =>
    simp only [Piece.names_reference, List.mem_cons, forall_eq_or_imp] at unset
    rw [render_all_cons, ih unset.2, Piece.render, unset.1]
    simp [String.ofList_append, String.append_assoc]
  | @copy c rest ps _ _ ih =>
    rw [render_all_cons, ih unset, Piece.render, ← String.ofList_cons]

theorem render_all_congr {env other : Vars} {ps : List Piece}
    (agree : ∀ name ∈ Piece.names ps, other.get? name = env.get? name) :
    Piece.renderAll other ps = Piece.renderAll env ps := by
  induction ps with
  | nil => rfl
  | cons p ps ih =>
    cases p with
    | plain t =>
      rw [render_all_cons, render_all_cons, ih agree]
      rfl
    | reference name written =>
      simp only [Piece.names_reference, List.mem_cons, forall_eq_or_imp] at agree
      rw [render_all_cons, render_all_cons, ih agree.2, Piece.render, Piece.render, agree.1]

/-- Expansion is one left-to-right scan: a text has exactly one reading, and expanding it
joins what the pieces of that reading stand for, each reference replaced by the value of its
variable when that is set and kept as written otherwise, and replaced text never read again.
So a text whose referenced variables are all unset comes back unchanged, and two sets of
variables that agree on the names a text refers to expand it alike. -/
theorem expand_is_one_scan (env : Vars) (s : String) :
    ∃ ps, Scan s.toList ps ∧ (∀ qs, Scan s.toList qs → qs = ps) ∧
      expand (Environment.ofVars env) s = .ok (Piece.renderAll env ps) ∧
      ((∀ name ∈ Piece.names ps, env.get? name = none) → expand (Environment.ofVars env) s = .ok s) ∧
      ∀ other : Vars, (∀ name ∈ Piece.names ps, other.get? name = env.get? name) →
        expand (Environment.ofVars other) s = expand (Environment.ofVars env) s := by
  obtain ⟨ps, scan⟩ := Scan.exists s.toList
  have pieced := pieces_of_scan scan
  have expands : ∀ vars : Vars, expand (Environment.ofVars vars) s = .ok (Piece.renderAll vars ps) := by
    intro vars
    rw [expand_of_vars_eq, pieced, render_all_push_all]
    simp [Piece.renderAll]
  refine ⟨ps, scan, fun qs other => (scan.unique other).symm, expands env, ?_, ?_⟩
  · intro unset
    rw [expands, scan.spells env unset, String.ofList_toList]
  · intro other agree
    rw [expands, expands, render_all_congr agree]

theorem expand_is_one_scan_unset :
    (∀ name, Vars.get? [] name = none) ∧
      expand (Environment.ofVars []) "$A$\x7bB\x7d$$1" = .ok "$A$\x7bB\x7d$$1" := by
  have unset : ∀ name, Vars.get? [] name = none := fun _ => rfl
  obtain ⟨ps, -, -, -, unchanged, -⟩ := expand_is_one_scan [] "$A$\x7bB\x7d$$1"
  exact ⟨unset, unchanged fun name _ => unset name⟩

/-- A value that holds a reference is not read again, and an unclosed brace is copied. -/
example : expand (Environment.ofVars [("A", "$B"), ("B", "x")]) "$$A$\x7bB\x7d$1$\x7bC" =
    .ok "$$Bx$1$\x7bC" := by
  rfl

end Conveyor.Env
