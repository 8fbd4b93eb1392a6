import NmDaemon.Base.Client

/-!
# One service as a part of another

A program written for one service can be run as part of a program that uses more: its calls
are made through the larger interface (`Prog.embed`), and what happens there is, for the
part, one of its own events or nothing at all (`Part.view`). What was proved of the program
for its own service holds of it there:

* `Part` — how a service is contained in a larger one;
* `Part.wp_embed` — the weakest conditions carry over, about what has happened since the
  program began;
* `perform`, `Part.ends_perform` — the same for programs that may fail, whose failures the
  larger program has its own type for.
-/

namespace NmDaemon

namespace Client

variable {S C A S' C' A' : Type} {R : C → Type} {R' : C' → Type} {ε ε' α : Type}

/-- A program, with its calls made through a larger interface. -/
def Prog.embed (call : C → C') (reply : (c : C) → R' (call c) → R c) : Prog C R α → Prog C' R' α
  | .done a => .done a
  | .call c k => .call (call c) fun r => (k (reply c r)).embed call reply

/-- A program that may fail, with its failures in the terms of the larger one. -/
def perform (call : C → C') (reply : (c : C) → R' (call c) → R c) (raise : ε → ε')
    (p : ExceptT ε (Prog C R) α) : ExceptT ε' (Prog C' R') α :=
  (Prog.embed call reply p).bind fun r => .done (r.mapError raise)

/-- How a service is contained in a larger one. -/
structure Part (svc : Service S C R A) (whole : Service S' C' R' A') where
  call : C → C'
  reply : (c : C) → R' (call c) → R c
  state : S' → S
  /-- what an action of the others is for the part, if anything -/
  action : A' → Option A
  /-- what an event is for the part, if anything -/
  seen : Event S' C' R' A' → Option (Event S C R A)
  seen_own : ∀ s c r, seen (.own s (call c) r) = some (.own (state s) c (reply c r))
  seen_rival : ∀ a, seen (.rival a) = (action a).map .rival
  serve : ∀ s c r s', whole.serve s (call c) r = some s' →
    svc.serve (state s) c (reply c r) = some (state s')
  rival_some : ∀ s a s' b, whole.rival s a = some s' → action a = some b →
    svc.rival (state s) b = some (state s')
  rival_none : ∀ s a s', whole.rival s a = some s' → action a = none → state s' = state s

namespace Part

variable {svc : Service S C R A} {whole : Service S' C' R' A'} (part : Part svc whole)

/-- A history, as far as the part is concerned. -/
def view (tr : List (Event S' C' R' A')) : List (Event S C R A) := tr.filterMap part.seen

/-- Nothing but calls of the part, and what the others did. -/
def Within (tr : List (Event S' C' R' A')) : Prop :=
  ∀ e ∈ tr, (∃ s c r, e = .own s (part.call c) r) ∨ ∃ a, e = .rival a

theorem view_append (tr tr' : List (Event S' C' R' A')) :
    part.view (tr ++ tr') = part.view tr ++ part.view tr' :=
  List.filterMap_append

theorem view_own (s : S') (c : C) (r : R' (part.call c)) :
    part.view [.own s (part.call c) r] = [.own (part.state s) c (part.reply c r)] := by
  rw [view, List.filterMap_cons_some (part.seen_own s c r), List.filterMap_nil]

theorem Within.snoc {part : Part svc whole} {tr : List (Event S' C' R' A')}
    {e : Event S' C' R' A'} (h : part.Within tr)
    (he : (∃ s c r, e = .own s (part.call c) r) ∨ ∃ a, e = .rival a) :
    part.Within (tr ++ [e]) := by
  intro e' he'
  rcases List.mem_append.mp he' with he' | he'
  · exact h e' he'
  · rw [List.mem_singleton.mp he']
    exact he

/-- What the others do in the larger service is something they can do in the part. -/
theorem rivals {tr₀ m tr : List (Event S' C' R' A')} {s s' : S'} (hm : part.Within m)
    (h : Rivals whole (tr₀ ++ m) s tr s') :
    ∃ m', tr = tr₀ ++ m' ∧ part.Within m' ∧
      Rivals svc (part.view m) (part.state s) (part.view m') (part.state s') := by
  induction h with
  | refl => exact ⟨m, rfl, hm, .refl⟩
  | @step tr t t' a _ hstep ih =>
    obtain ⟨m', rfl, hm', hrivals⟩ := ih
    refine ⟨m' ++ [.rival a], List.append_assoc _ _ _, hm'.snoc (.inr ⟨a, rfl⟩), ?_⟩
    rw [part.view_append]
    cases haction : part.action a with
    | none =>
      have hview : part.view [.rival a] = [] := by
        rw [view, List.filterMap_cons_none (by rw [part.seen_rival, haction]; rfl),
          List.filterMap_nil]
      rw [hview, List.append_nil, part.rival_none _ _ _ hstep haction]
      exact hrivals
    | some b =>
      have hview : part.view [.rival a] = [.rival b] := by
        rw [view, List.filterMap_cons_some (by rw [part.seen_rival, haction]; rfl),
          List.filterMap_nil]
      rw [hview]
      exact hrivals.step (part.rival_some _ _ _ _ hstep haction)

/-- **What holds of a program for its own service holds of it as a part**, of what has happened
since it began. -/
theorem wp_embed {G : Guarantee S C R A} {G' : Guarantee S' C' R' A'} {Q : α → Assertion S C R A}
    {tr₀ : List (Event S' C' R' A')}
    (hG : ∀ m s c r, part.Within m → G (part.view m) (part.state s) c (part.reply c r) →
      G' (tr₀ ++ m) s (part.call c) r) (p : Prog C R α) :
    ∀ m s, part.Within m → wp svc G Q p (part.view m) (part.state s) →
      wp whole G' (fun a tr s => ∃ m, tr = tr₀ ++ m ∧ part.Within m ∧
        Q a (part.view m) (part.state s)) (p.embed part.call part.reply) (tr₀ ++ m) s := by
  induction p with
  | done a => exact fun m s hm h => ⟨m, rfl, hm, h⟩
  | call c k ih =>
    intro m s hm h tr s' hrivals r s'' hserve
    obtain ⟨m', rfl, hm', hrivals'⟩ := part.rivals hm hrivals
    obtain ⟨hcall, hrest⟩ := h _ _ hrivals' _ _ (part.serve _ _ _ _ hserve)
    refine ⟨hG m' s' c r hm' hcall, ?_⟩
    rw [List.append_assoc]
    refine ih (part.reply c r) _ s'' (hm'.snoc (.inl ⟨s', c, r, rfl⟩)) ?_
    rw [part.view_append, part.view_own]
    exact hrest

/-- The rule for a part that may fail: what is known when it begins is about the history up to
there, and what it leaves behind about the history since. -/
theorem ends_perform {G : Guarantee S C R A} {G' : Guarantee S' C' R' A'} {raise : ε → ε'}
    {p : ExceptT ε (Prog C R) α} {P : Assertion S C R A} {Q : α → Assertion S C R A}
    {F : ε → Assertion S C R A} {P' : Assertion S' C' R' A'} {Q' : α → Assertion S' C' R' A'}
    {F' : ε' → Assertion S' C' R' A'} (hp : Ends svc G P p Q F)
    (hP : ∀ tr s, P' tr s → P [] (part.state s))
    (hG : ∀ tr₀ s₀ m s c r, P' tr₀ s₀ → part.Within m →
      G (part.view m) (part.state s) c (part.reply c r) → G' (tr₀ ++ m) s (part.call c) r)
    (hQ : ∀ a tr₀ s₀ m s, P' tr₀ s₀ → part.Within m → Q a (part.view m) (part.state s) →
      Q' a (tr₀ ++ m) s)
    (hF : ∀ e tr₀ s₀ m s, P' tr₀ s₀ → part.Within m → F e (part.view m) (part.state s) →
      F' (raise e) (tr₀ ++ m) s) :
    Ends whole G' P' (perform part.call part.reply raise p) Q' F' := by
  intro tr₀ s₀ hstart
  refine wp_bind _ _ tr₀ s₀ ?_
  have hwp := part.wp_embed (fun m s c r => hG tr₀ s₀ m s c r hstart) p [] s₀
    (fun e he => absurd he List.not_mem_nil) (hp [] (part.state s₀) (hP tr₀ s₀ hstart))
  rw [List.append_nil] at hwp
  refine wp_mono ?_ _ tr₀ s₀ hwp
  rintro (e | a) tr s ⟨m, rfl, hm, h⟩
  · exact hF e tr₀ s₀ m s hstart hm h
  · exact hQ a tr₀ s₀ m s hstart hm h

end Part

end Client

end NmDaemon
