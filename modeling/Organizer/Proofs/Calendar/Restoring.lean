import Organizer.Proofs.Calendar.Replacing
import Organizer.Proofs.Collection.Restoring

/-!
# Agendas that are saved and loaded

An agenda is saved day by day, as its index lists them. On a tidy desk with a right index the file
therefore holds the whole agenda, and nothing that could not be loaded (`exists_payload`). To load
it elsewhere replaces the agenda there, so that both are the same (`agenda_replaced_and_restored`).

As with collections, the loading is answered only if the store can be written out, and a torn text
anywhere in a store that is kept in a file is in the way: the days come to stand in the mapping, but
the index does not follow (`not_always_replaced`).
-/

namespace Organizer

open Organizer.Action Json

namespace Agenda

open Store

variable {days : List (String × List Json)} {d d' : Desk} {typed : Option String}

/-! ### What is saved -/

theorem mapM_eq_ok {α β : Type} {f : α → Except Failure β} {g : α → β} {xs : List α}
    (h : ∀ x ∈ xs, f x = .ok (g x)) : xs.mapM f = .ok (xs.map g) := by
  induction xs with
  | nil => rfl
  | cons x xs ih =>
    obtain ⟨hx, hxs⟩ := List.forall_mem_cons.1 h
    rw [List.mapM_cons, hx, ih hxs]
    rfl

/-- Values that are each the image of something are together the images of some list. -/
theorem exists_map_eq {α β γ : Type} {f : α → γ} {g : β → γ} {p : β → Prop} {xs : List α}
    (h : ∀ x ∈ xs, ∃ y, f x = g y ∧ p y) :
    ∃ ys : List β, xs.map f = ys.map g ∧ ∀ y ∈ ys, p y := by
  induction xs with
  | nil => exact ⟨[], rfl, List.forall_mem_nil _⟩
  | cons x xs ih =>
    obtain ⟨⟨y, hxy, hy⟩, hxs⟩ := List.forall_mem_cons.1 h
    obtain ⟨ys, hmap, hys⟩ := ih hxs
    exact ⟨y :: ys, by rw [List.map_cons, List.map_cons, hxy, hmap],
      List.forall_mem_cons.2 ⟨hy, hys⟩⟩

/-- The days are those that are listed, with their events, of which each has some. -/
structure Listed (s : Store) (pss : List (List Text.CodePoint))
    (days : List (String × List Json)) : Prop where
  keys : pss.map Scalar.ofPoints = days.map fun day ↦ .text day.1
  areDays : AreDays days
  list : ∀ day ∈ days, s.list day.1 = .ok day.2
  ne_nil : ∀ day ∈ days, day.2 ≠ []

section Listed

variable {s : Store} {pss : List (List Text.CodePoint)}

/-- On a tidy desk each listed day is a text, and its events are texts. -/
theorem exists_listed (h : Indexed d.store.entries) (hlists : Lists d.store.entries pss)
    (htidy : d.Tidy) : ∃ days, Listed d.store pss days := by
  have hlisted : ∀ ps ∈ pss, ∃ day : String × List Json, Scalar.ofPoints ps = .text day.1 ∧
      (DayKey.isDigitsKey day.1 = true ∧ ∀ event ∈ day.2, event.isText = true) ∧
      d.store.list day.1 = .ok day.2 ∧ day.2 ≠ [] := by
    intro ps hps
    obtain ⟨hday, r, rs, hget⟩ := (hlists.mem_iff ps).1 hps
    have hlist := list_of_get? hget (h.shallow _ _ hget hday)
    have hfits := htidy.holding.of_list hlist
    obtain ⟨-, day, hkey, hdigits⟩ := (hfits r List.mem_cons_self).event hday
    exact ⟨(day, r :: rs), hkey, ⟨hdigits, fun event hevent ↦ ((hfits event hevent).event hday).1⟩,
      hkey ▸ hlist, List.cons_ne_nil r rs⟩
  obtain ⟨days, hkeys, hdays⟩ := exists_map_eq hlisted
  exact ⟨days, hkeys, fun day hday ↦ (hdays day hday).1, fun day hday ↦ (hdays day hday).2.1,
    fun day hday ↦ (hdays day hday).2.2⟩

theorem Listed.nodup (h : Listed s pss days) (hpss : pss.Nodup) : (days.map (·.1)).Nodup := by
  refine List.Nodup.of_map Scalar.text ?_
  rw [List.map_map]
  exact h.keys ▸ hpss.map Scalar.ofPoints_injective

theorem Listed.payload (h : Listed d.store pss days) (hpss : pss.Nodup)
    (hindex : d.store.days = .ok (pss.map Json.spelled)) :
    payload d = .ok (days.map fun day ↦ (.text day.1, .arr day.2)) := by
  have hdistinct : distinct (pss.map Json.spelled) = pss.map Json.spelled := distinct_spelled hpss
  have hentries : (pss.map Json.spelled).mapM keyOf = .ok (days.map (.text ·.1)) := by
    rw [← h.keys, ← map_scalar_ofPoints, List.mapM_map,
      mapM_eq_ok (f := keyOf ∘ scalar) (g := id) fun _ _ ↦ rfl, List.map_id]
  rw [Agenda.payload, hindex, ok_bind, hdistinct, hentries, ok_bind, List.mapM_map]
  refine mapM_eq_ok fun day hday ↦ ?_
  show (d.store.list day.1 >>= fun events ↦ _) = _
  rw [h.list day hday]
  rfl

/-- The agenda is made of the days that are listed. -/
theorem Listed.shows (h : Listed s pss days) (hindexed : Indexed s.entries)
    (hlists : Lists s.entries pss) (hindex : s.days = .ok (pss.map Json.spelled)) :
    Shows days s where
  given := h.list
  others key hday hnot := by
    refine hindexed.list_eq_nil hday fun hevents ↦ ?_
    have hmem := (mem_ofPoints_iff hlists.mem_iff hindexed.spelled).2 hevents
    rw [h.keys] at hmem
    obtain ⟨day, hmem, heq⟩ := List.mem_map.1 hmem
    exact hnot day hmem heq.symm
  index := by
    have hall : (days.filter fun day ↦ !day.2.isEmpty) = days := by
      refine List.filter_eq_self.2 fun day hday ↦ ?_
      simpa using h.ne_nil day hday
    rw [hall, hindex, hlists.eq_sortTexts (h.nodup hlists.nodup)]
    intro ps
    rw [← List.mem_map_of_injective Scalar.ofPoints_injective, h.keys]
    simp only [List.map_map, List.mem_map, Function.comp_apply]
    refine exists_congr fun day ↦ and_congr_right fun _ ↦ ?_
    rw [eq_comm, ofPoints_eq_text_iff, eq_comm]

/-- **What is saved is the agenda**, and it is as a file can give it. -/
theorem exists_payload (h : Indexed d.store.entries) (htidy : d.Tidy) :
    ∃ days, payload d = .ok (days.map fun day ↦ (.text day.1, .arr day.2)) ∧ AreDays days ∧
      (days.map (·.1)).Nodup ∧ Shows days d.store := by
  obtain ⟨pss, hget, hlists⟩ := h.index
  have hindex := days_of_index hget hlists
  obtain ⟨days, hlisted⟩ := exists_listed h hlists htidy
  exact ⟨days, hlisted.payload hlists.nodup hindex, hlisted.areDays, hlisted.nodup hlists.nodup,
    hlisted.shows h hlists hindex⟩

end Listed

/-- An agenda with days that is saved is written to the file that was named. -/
theorem write_of_save {responses : List Response} {fs : Fields}
    (h : (save typed).perform d = (.ok responses, d')) (hpayload : payload d = .ok fs)
    (hne : fs ≠ []) : ∃ path, d.resolve typed fileName = .ok path ∧
      (Desk.write path (.obj fs)).perform d = (.ok (), d') := by
  rw [save, perform_bind_of_ok (perform_get d), perform_bind, perform_ofExcept, hpayload] at h
  dsimp only at h
  rw [perform_ite, if_neg (by simpa using hne)] at h
  obtain ⟨path, u, hresolve, h⟩ := perform_bind_eq_ok.1 h
  rw [perform_ofExcept] at hresolve
  obtain ⟨hpath, rfl⟩ := Prod.mk.inj hresolve
  obtain ⟨x, w, hwrite, h⟩ := perform_bind_eq_ok.1 h
  cases h
  exact ⟨path, hpath, hwrite⟩

theorem asRead_of_areDays (hdays : AreDays days) (hnodup : (days.map (·.1)).Nodup) :
    (Json.obj (days.map fun day ↦ (.text day.1, .arr day.2))).AsRead := by
  refine asRead_obj.2 ⟨?_, fun f hf ↦ ?_⟩
  · have hkeys := hnodup.map (f := Scalar.text) fun _ _ heq ↦ Scalar.text.inj heq
    rw [List.map_map] at hkeys
    rw [Fields.keys, List.map_map]
    exact hkeys
  · obtain ⟨day, hday, rfl⟩ := List.mem_map.1 hf
    exact ⟨rfl, asRead_arr.2 fun event hevent ↦ .of_isText ((hdays day hday).2 event hevent)⟩

/-- **What is saved from a tidy desk can be loaded** wherever the file is found again. -/
theorem loads_of_save {responses : List Response} (h : Indexed d.store.entries) (htidy : d.Tidy)
    (hne : d.store.days ≠ .ok []) (hsave : (save typed).perform d = (.ok responses, d')) :
    ∃ path v days, d.resolve typed fileName = .ok path ∧ v.hasTorn = false ∧
      Shows days d.store ∧ ∀ (e : Desk) (typed' : Option String), Indexed e.store.entries →
        e.resolve typed' fileName = .ok path → e.files.read path = d'.files.read path →
        Loads typed' path v days e := by
  obtain ⟨days, hpayload, hdays, hnodup, hshows⟩ := exists_payload h htidy
  have hne' : days ≠ [] := by
    rintro rfl
    refine hne (hshows.index.trans ?_)
    simp [sortTexts]
  obtain ⟨path, hpath, hwrite⟩ := write_of_save hsave hpayload (mt List.map_eq_nil_iff.1 hne')
  have hasRead := asRead_of_areDays hdays hnodup
  have hdepth : (Json.obj (days.map fun day ↦ (.text day.1, .arr day.2))).depth ≤ maxRead := by
    refine Nat.le_trans (Nat.succ_le_succ (depthOfFields_le_iff (n := maxKept).2 fun f hf ↦ ?_))
      (by decide)
    obtain ⟨day, hday, rfl⟩ := List.mem_map.1 hf
    exact depth_of_isText (hdays day hday).2
  have hread := Desk.read_of_perform_write hwrite hasRead.isProper hasRead.isReadable hdepth
  refine ⟨path, _, days, hpath, (Desk.perform_write_eq_ok.1 hwrite).1.2, hshows, ?_⟩
  intro e typed' he hpath' hsame
  refine loads_of_read he hpath' ?_ (daysOf?_eq_some.2 ⟨rfl, hdays⟩)
  rw [Desk.read, hsame]
  exact hread

end Agenda

open Store Agenda

/-- **To load an agenda replaces exactly the calendar**, if the index is right. A file that holds an
agenda is loaded; if that is answered, each of its days has the events that it gives them, every
other day has none, the index lists the days with events in order, and no other key is touched. It
is answered in memory, and in a file if the mapping can be written and no text of the agenda is
torn.

Hence, if a calendar with days that was reached from an empty store was saved, in memory or with a
right index, then on any desk where the file is as it was left, to load it makes all days and their
events the same as there. It is answered if the mapping can be written. -/
theorem agenda_replaced_and_restored :
    (∀ (d : Desk) (typed : Option String) (path : Path) (v : Json)
      (days : List (String × List Json)), d.store.RightlyIndexed →
      d.resolve typed fileName = .ok path → d.read path = .ok v → daysOf? v = some days →
      Loads typed path v days d) ∧
    ∀ (app : App) (events : List App.Event) (typed : Option String) (responses : List Response)
      (d' : Desk), Opens [] app.desk.store →
      ((app.after events).desk.store.backing = .memory ∨
        (app.after events).desk.store.RightlyIndexed) →
      (app.after events).desk.store.days ≠ .ok [] →
      (save typed).perform (app.after events).desk = (.ok responses, d') →
      ∃ path, (app.after events).desk.resolve typed fileName = .ok path ∧
        ∀ (e : Desk) (typed' : Option String), e.store.RightlyIndexed →
          e.resolve typed' fileName = .ok path → e.files.read path = d'.files.read path →
          ∃ (r : Except Failure (List Response)) (t : Store),
            (load typed').perform e = (r, { e with store := t }) ∧
            (∀ answer, r = .ok answer → (∀ key, isDayKey key = true →
              t.list key = (app.after events).desk.store.list key) ∧
              t.days = (app.after events).desk.store.days) ∧
            (e.store.canSave = true → r = .ok (loaded path)) := by
  constructor
  · exact fun d typed path v days h hpath hread hdays ↦
      loads_of_read h.indexed hpath hread hdays
  · intro app events typed responses d' hopen h hne hsave
    have htidy := App.tidy_of_opens hopen events
    obtain ⟨path, v, days, hpath, htorn, hshows, hloads⟩ :=
      loads_of_save (h.elim htidy.indexed (·.indexed)) htidy hne hsave
    refine ⟨path, hpath, fun e typed' he hpath' hsame ↦ ?_⟩
    obtain ⟨r, t, hload, hreplaces, hanswered⟩ := hloads e typed' he.indexed hpath' hsame
    refine ⟨r, t, hload, fun answer hanswer ↦ ?_, fun hcan ↦ hanswered (.inr ⟨hcan, htorn⟩)⟩
    exact hshows.eq (hreplaces answer hanswer).toShows

/-- A desk with a store, and with an agenda of one day in a file. -/
def Desk.withDentist (store : Store) : Desk where
  store
  files := ⟨[(["home"], .directory), (["home", "saved"], .directory),
    (["home", "saved", "calendar.txt"], .file "\x7b\"cal-260105\": [\"dentist\"]\x7d".toUTF8)]⟩
  home := ⟨.slash, ["home"]⟩
  savedFiles := ⟨.slash, ["home", "saved"]⟩

/-- The value in that file. -/
def dentist : Json := .obj [("cal-260105", .arr [.str "dentist"])]

/-- A store with an event on another day. -/
def Store.walking : Store where
  entries := [("cal-250101", .arr [.str "walk"]), (indexKey, .arr [.str "cal-250101"])]
  backing := .memory

theorem Store.rightlyIndexed_walking : walking.RightlyIndexed where
  spelled := by
    intro k hk
    rcases List.mem_pair.1 hk with rfl | rfl <;> exact Scalar.isSpelled_text _
  nodup := by decide
  index := ⟨[.str "cal-250101"], by decide +kernel, by decide +kernel⟩

/-- The request to enter an event. -/
def App.enterDentist : List App.Event :=
  [.words (fun _ _ ↦ none) ["cal", "add", "260105", "dentist"]]

/-- An agenda of one day takes the place of another, from a file that was there and from one that is
made by saving it. -/
theorem agenda_replaced_and_restored_day :
    (∃ t, (load none).perform (Desk.withDentist walking) =
        (.ok (loaded ⟨.slash, ["home", "saved", "calendar.txt"]⟩),
          { Desk.withDentist walking with store := t }) ∧
      t.list "cal-250101" = .ok [] ∧ t.list "cal-260105" = .ok [.str "dentist"] ∧
      t.days = .ok [.str "cal-260105"]) ∧
    ∃ d', (save none).perform ((App.setUp .memory).after App.enterDentist).desk =
        (.ok (Response.reply "Calendar data saved." .calendar), d') ∧
      ∃ t, (load none).perform { Desk.withDentist walking with files := d'.files } =
          (.ok (loaded ⟨.slash, ["home", "saved", "calendar.txt"]⟩),
            { Desk.withDentist walking with files := d'.files, store := t }) ∧
        t.days = ((App.setUp .memory).after App.enterDentist).desk.store.days := by
  obtain ⟨hreplaced, hrestored⟩ := agenda_replaced_and_restored
  constructor
  · have hread : (Desk.withDentist walking).read ⟨.slash, ["home", "saved", "calendar.txt"]⟩ =
        .ok dentist := by decide +kernel
    have hdays : daysOf? dentist = some [("cal-260105", [.str "dentist"])] := by decide +kernel
    obtain ⟨r, t, hload, hreplaces, hanswered⟩ :=
      hreplaced (Desk.withDentist walking) none _ _ _ rightlyIndexed_walking rfl hread hdays
    obtain rfl := hanswered (.inl rfl)
    have ht := hreplaces _ rfl
    refine ⟨t, hload, ?_, ht.given _ List.mem_cons_self,
      ht.index.trans (by decide +kernel)⟩
    exact ht.others "cal-250101" (by decide +kernel) (by simp)
  · have hopen : Opens [] (App.setUp .memory).desk.store := .memory (by decide +kernel)
    have hanswer : ((save none).perform ((App.setUp .memory).after App.enterDentist).desk).1 =
        .ok (Response.reply "Calendar data saved." .calendar) := by decide +kernel
    have hdays : ((App.setUp .memory).after App.enterDentist).desk.store.days =
        .ok [.str "cal-260105"] := by decide +kernel
    obtain ⟨d', hsave⟩ := exists_perform_eq hanswer
    obtain ⟨path, hpath, hall⟩ := hrestored (App.setUp .memory) App.enterDentist none _ d' hopen
      (.inl (by decide +kernel)) (by simp [hdays]) hsave
    have hresolve : ((App.setUp .memory).after App.enterDentist).desk.resolve none fileName =
        .ok ⟨.slash, ["home", "saved", "calendar.txt"]⟩ := by decide +kernel
    obtain rfl := Except.ok.inj (hpath.symm.trans hresolve)
    obtain ⟨r, t, hload, hsame, hanswered⟩ :=
      hall { Desk.withDentist walking with files := d'.files } none rightlyIndexed_walking rfl rfl
    have hcan : walking.canSave = true := by decide +kernel
    obtain rfl := hanswered hcan
    exact ⟨d', hsave, t, hload, (hsame _ rfl).2⟩

/-- A store that is kept in a file, with a torn text among the notes. -/
def Store.tornNotes : Store where
  entries := [(indexKey, .arr []), ("notes", .arr [.scalar (.torn [.half 0])])]
  backing := .file ["\x7b\"_calendar_index\": [], \"notes\": [\"\\ud800\"]\x7d"]

/-- **To load an agenda does not always replace the calendar**, although the index is right: if a
torn text is among the notes, the index does not follow. -/
theorem not_always_replaced :
    ¬ ∀ (d : Desk) (typed : Option String) (path : Path) (v : Json)
      (days : List (String × List Json)), d.store.RightlyIndexed →
      d.resolve typed fileName = .ok path → d.read path = .ok v → daysOf? v = some days →
      Replaces d.store.entries days ((load typed).perform d).2.store := by
  intro h
  have hindexed : tornNotes.RightlyIndexed :=
    { spelled := by
        intro k hk
        rcases List.mem_pair.1 hk with rfl | rfl <;> exact Scalar.isSpelled_text _
      nodup := by decide
      index := ⟨[], by decide +kernel, by decide +kernel⟩ }
  have hread : (Desk.withDentist tornNotes).read ⟨.slash, ["home", "saved", "calendar.txt"]⟩ =
      .ok dentist := by decide +kernel
  have hdays : daysOf? dentist = some [("cal-260105", [.str "dentist"])] := by decide +kernel
  have hload : ((load none).perform (Desk.withDentist tornNotes)).2.store.days = .ok [] := by
    decide +kernel
  have hindex := (h (Desk.withDentist tornNotes) none _ _ _ hindexed rfl hread hdays).index
  exact absurd (hload.symm.trans hindex) (by decide +kernel)

end Organizer
