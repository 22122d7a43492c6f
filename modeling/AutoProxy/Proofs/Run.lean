import AutoProxy.Scene

/-! Runs that come through, step by step. -/
namespace AutoProxy.Run

variable {α β ε : Type} {P : α → Scene → Prop} {R : β → Scene → Prop} {s : Scene}

/-- From `s` the run comes through, and `P` holds of what it gives and the scene that it leaves. -/
def Ends (x : Run α) (s : Scene) (P : α → Scene → Prop) : Prop :=
  ∃ a s', x.run.run s = (.ok a, s') ∧ P a s'

/-- From `s` the run comes through with `P`, or ends early with `E`. -/
def Meets (x : Run α) (s : Scene) (P : α → Scene → Prop) (E : Problem → Scene → Prop) : Prop :=
  match x.run.run s with
  | (.ok a, s') => P a s'
  | (.error p, s') => E p s'

variable {x : Run α} {f : α → Run β} {a : α} {b : β} {p : Problem} {E F : Problem → Scene → Prop}
  {s' : Scene}

/-- What follows a run that came through begins in the scene that this one left. -/
theorem run_bind_of_ok (h : x.run.run s = (.ok a, s')) :
    (x >>= f).run.run s = (f a).run.run s' := by
  rw [ExceptT.run_bind, StateT.run_bind, h]
  rfl

/-- What follows a run that ended early is not begun. -/
theorem run_bind_of_error (h : x.run.run s = (.error p, s')) :
    (x >>= f).run.run s = (.error p, s') := by
  rw [ExceptT.run_bind, StateT.run_bind, h]
  rfl

theorem run_log {level : Level} {origin : Origin} {text : Text} :
    (log level origin text).run.run s =
      (.ok (), { s with log := s.log ++ [⟨level, origin, text⟩] }) :=
  rfl

theorem run_get : (get : Run Scene).run.run s = (.ok s, s) := rfl

theorem run_liftFault_of_ok {g : ε → Problem} {r : Except ε α} (h : r = .ok a) :
    (liftFault g r).run.run s = (.ok a, s) := by
  rw [h]
  rfl

theorem run_liftFault_of_error {g : ε → Problem} {r : Except ε α} {e : ε} (h : r = .error e) :
    (liftFault g r).run.run s = (.error (g e), s) := by
  rw [h]
  rfl

theorem meets_of_ok (h : x.run.run s = (.ok a, s')) (hP : P a s') : Meets x s P E := by
  rw [Meets, h]
  exact hP

theorem meets_of_error (h : x.run.run s = (.error p, s')) (hE : E p s') : Meets x s P E := by
  rw [Meets, h]
  exact hE

theorem Meets.of_ok (h : Meets x s P E) (hrun : x.run.run s = (.ok a, s')) : P a s' := by
  rwa [Meets, hrun] at h

theorem Meets.of_error (h : Meets x s P E) (hrun : x.run.run s = (.error p, s')) : E p s' := by
  rwa [Meets, hrun] at h

/-- A run in two parts comes through only if the first part does, and the second from there. -/
theorem eq_ok_of_bind (h : (x >>= f).run.run s = (.ok b, s')) :
    ∃ a t, x.run.run s = (.ok a, t) ∧ (f a).run.run t = (.ok b, s') := by
  match hx : x.run.run s with
  | (.ok a, t) => exact ⟨a, t, rfl, (run_bind_of_ok hx).symm.trans h⟩
  | (.error e, t) => cases (run_bind_of_error hx).symm.trans h

/-- It ends early if the first part does, or the second from where the first came through. -/
theorem eq_error_of_bind (h : (x >>= f).run.run s = (.error p, s')) :
    x.run.run s = (.error p, s') ∨
      ∃ a t, x.run.run s = (.ok a, t) ∧ (f a).run.run t = (.error p, s') := by
  match hx : x.run.run s with
  | (.ok a, t) => exact .inr ⟨a, t, rfl, (run_bind_of_ok hx).symm.trans h⟩
  | (.error e, t) =>
    rw [run_bind_of_error hx] at h
    cases h
    exact .inl rfl

/-- To say how two runs in a row end, it is enough to follow the first to where it comes through. If
it ends early, the whole does, with the same problem. -/
theorem Meets.bind (h : Meets x s (fun a s' => Meets (f a) s' R E) E) :
    Meets (x >>= f) s R E := by
  match hx : x.run.run s with
  | (.ok a, t) =>
    have hf := h.of_ok hx
    rwa [Meets, run_bind_of_ok hx]
  | (.error e, t) => exact meets_of_error (run_bind_of_error hx) (h.of_error hx)

theorem Meets.mono {Q : α → Scene → Prop} (h : Meets x s P E) (hP : ∀ a s', P a s' → Q a s')
    (hE : ∀ p s', E p s' → F p s') : Meets x s Q F := by
  match hx : x.run.run s with
  | (.ok a, t) => exact meets_of_ok hx (hP a t (h.of_ok hx))
  | (.error e, t) => exact meets_of_error hx (hE e t (h.of_error hx))

theorem meets_pure (h : P a s) : Meets (pure a) s P E := h

theorem meets_throw (h : E p s) : Meets (throw p : Run α) s P E := h

/-- A run that is thrown out of does not come to what is written behind. -/
theorem meets_throw_bind (h : E p s) : Meets ((throw p : Run α) >>= f) s R E := h

theorem meets_get {P : Scene → Scene → Prop} (h : P s s) : Meets get s P E := h

theorem meets_set {P : PUnit → Scene → Prop} (h : P ⟨⟩ s') : Meets (set s') s P E := h

theorem meets_log {P : Unit → Scene → Prop} {level : Level} {origin : Origin} {text : Text}
    (h : P () { s with log := s.log ++ [⟨level, origin, text⟩] }) :
    Meets (log level origin text) s P E :=
  h

/-- Both ways out of a computation are left to be shown, each with what the computation came to. -/
theorem meets_liftFault {g : ε → Problem} {r : Except ε α} (hP : ∀ a, r = .ok a → P a s)
    (hE : ∀ e, r = .error e → E (g e) s) : Meets (liftFault g r) s P E := by
  cases r with
  | ok a => exact hP a rfl
  | error e => exact hE e rfl

theorem run_map_of_ok {g : α → β} (h : x.run.run s = (.ok a, s')) :
    (g <$> x).run.run s = (.ok (g a), s') := by
  rw [ExceptT.run_map, StateT.run_map, h]
  rfl

theorem run_map_of_error {g : α → β} (h : x.run.run s = (.error p, s')) :
    (g <$> x).run.run s = (.error p, s') := by
  rw [ExceptT.run_map, StateT.run_map, h]
  rfl

theorem Meets.map {g : α → β} (h : Meets x s (fun a s' => R (g a) s') E) :
    Meets (g <$> x) s R E := by
  match hx : x.run.run s with
  | (.ok a, t) => exact meets_of_ok (run_map_of_ok hx) (h.of_ok hx)
  | (.error e, t) => exact meets_of_error (run_map_of_error hx) (h.of_error hx)

/-- The run leaves files and clock alone, however it ends. -/
def Spares (x : Run α) : Prop :=
  ∀ s, (x.run.run s).2.files = s.files ∧ (x.run.run s).2.now = s.now

theorem Spares.files {r : Except Problem α} (h : Spares x) (hrun : x.run.run s = (r, s')) :
    s'.files = s.files := by
  have hfiles := (h s).1
  rwa [hrun] at hfiles

theorem Spares.now {r : Except Problem α} (h : Spares x) (hrun : x.run.run s = (r, s')) :
    s'.now = s.now := by
  have hnow := (h s).2
  rwa [hrun] at hnow

theorem Spares.bind (hx : Spares x) (hf : ∀ a, Spares (f a)) : Spares (x >>= f) := by
  intro s
  have hfirst := hx s
  match hrun : x.run.run s with
  | (.ok a, t) =>
    rw [hrun] at hfirst
    have hsecond := hf a t
    rw [run_bind_of_ok hrun]
    exact ⟨hsecond.1.trans hfirst.1, hsecond.2.trans hfirst.2⟩
  | (.error p, t) =>
    rw [hrun] at hfirst
    rw [run_bind_of_error hrun]
    exact hfirst

theorem Spares.map {g : α → β} (hx : Spares x) : Spares (g <$> x) := by
  intro s
  have hrun := hx s
  match h : x.run.run s with
  | (.ok a, t) =>
    rw [h] at hrun
    rwa [run_map_of_ok h]
  | (.error p, t) =>
    rw [h] at hrun
    rwa [run_map_of_error h]

theorem spares_pure : Spares (pure a : Run α) := fun _ => ⟨rfl, rfl⟩

theorem spares_throw : Spares (throw p : Run α) := fun _ => ⟨rfl, rfl⟩

theorem spares_get : Spares (get : Run Scene) := fun _ => ⟨rfl, rfl⟩

/-- The scene may be changed on the way, but for files and clock. -/
theorem spares_get_set_bind {g : Scene → Scene} {k : Scene → Run α}
    (hg : ∀ s, (g s).files = s.files ∧ (g s).now = s.now) (hk : ∀ s, Spares (k s)) :
    Spares (get >>= fun s => set (g s) >>= fun _ => k s) := by
  intro s
  have hrest := hk s (g s)
  exact ⟨hrest.1.trans (hg s).1, hrest.2.trans (hg s).2⟩

theorem spares_log {level : Level} {origin : Origin} {text : Text} :
    Spares (log level origin text) :=
  fun _ => ⟨rfl, rfl⟩

theorem spares_liftFault {g : ε → Problem} {r : Except ε α} : Spares (liftFault g r) := by
  cases r with
  | ok a => exact spares_pure
  | error e => exact spares_throw

end AutoProxy.Run
