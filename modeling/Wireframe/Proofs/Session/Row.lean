import Wireframe.Proofs.Page.Row
import Wireframe.Proofs.Session.Isolation
/-!
The row of frames along a session. Calls take frames away and put new ones behind the others, so
without changes from outside the frames of a page lie in the order in which they were added, level
and with a gap between any two. Whatever else is done to the page, a new frame lies beside those
that are there.
-/

namespace Wireframe

open Binary (exact)

theorem Page.DropsAtMost.sublist {id : Option Nat} {before after : List Node}
    (drops : DropsAtMost id before after) : after.Sublist before := by
  rcases drops with rfl | ⟨front, frame, back, rfl, _, rfl⟩
  · exact List.Sublist.refl _
  · exact (List.sublist_cons_self frame back).append_left front

theorem Page.edit_adds (page : Page) (made : Edit) :
    (∃ draft, made = .add draft) ∨
      ((page.edit made).frames.map Node.id).Sublist (page.frames.map Node.id) := by
  have kept (same : (page.edit made).frames.map Node.id = page.frames.map Node.id) :
      ((page.edit made).frames.map Node.id).Sublist (page.frames.map Node.id) :=
    same ▸ List.Sublist.refl _
  cases made with
  | add draft => exact Or.inl ⟨draft, rfl⟩
  | takeId => exact Or.inr (kept rfl)
  | appendChild id draft => exact Or.inr (kept (ids_modify id (Node.id_append _) page.freshId.2))
  | removeChild id child => exact Or.inr (kept (ids_modify id (Node.id_removeChild child) page))
  | remove id => exact Or.inr ((remove_drops id page).sublist.map Node.id)
  | move id position => exact Or.inr (kept (ids_modify id (Node.id_withPosition position) page))
  | resize id size => exact Or.inr (kept (ids_modify id (Node.id_resize size) page))

structure Page.Numbered (page : Page) : Prop where
  bounded : page.Bounded
  distinct : (page.frames.map Node.id).Nodup

namespace Page.Numbered

variable {page : Page}

theorem empty (viewport : Viewport) (gap : Float32) : Numbered (.empty viewport gap) :=
  ⟨.empty viewport gap, List.nodup_nil⟩

theorem fresh (numbered : page.Numbered) : page.lastId + 1 ∉ page.frames.map Node.id := by
  intro present
  have given := numbered.bounded _ present
  omega

theorem keep (numbered : page.Numbered) {kept : List Node} (sub : kept.Sublist page.frames) :
    (kept.map Node.id).Nodup :=
  numbered.distinct.sublist (sub.map Node.id)

theorem add {kept : List Node} {new : Node} (numbered : page.Numbered)
    (sub : kept.Sublist page.frames) (next : new.id = page.lastId + 1) :
    ((kept ++ [new]).map Node.id).Nodup := by
  have apart : new.id ∉ kept.map Node.id := by
    intro present
    rw [next] at present
    exact numbered.fresh ((sub.map Node.id).subset present)
  rw [List.map_append, List.nodup_append]
  refine ⟨numbered.keep sub, List.nodup_singleton _, ?_⟩
  intro id present other single same
  rw [List.mem_singleton.mp single] at same
  exact apart (same ▸ present)

theorem edit (numbered : page.Numbered) (made : Edit) : (page.edit made).Numbered := by
  refine ⟨numbered.bounded.edit made, ?_⟩
  rcases page.edit_adds made with ⟨draft, rfl⟩ | sub
  · exact numbered.add (List.Sublist.refl _) (page.id_added draft)
  · exact numbered.distinct.sublist sub

end Page.Numbered

namespace Session

/-- What a call does to the row of frames: some stay where they are, and a start puts the empty
destination behind them. -/
structure Lines (env : Environment) (page after : Page) (kept : List Node) : Prop where
  gap : after.gap = page.gap
  viewport : after.viewport = page.viewport
  sublist : kept.Sublist page.frames
  frames : after.frames.map Node.plot = kept.map Node.plot ∨ ∃ prompt device,
    after.frames = kept ++ [Page.added { page with frames := kept } (draft env prompt device)]

theorem start_lines (env : Environment) (session : Session) (prompt device : String) :
    Lines env session.page (session.start env prompt device).2.page
      (session.state.release session.page).frames := by
  have sub := (session.state.release_drops session.page).sublist
  obtain ⟨page, state, notifications⟩ := session
  cases state <;> exact ⟨rfl, rfl, sub, Or.inr ⟨prompt, device, rfl⟩⟩

theorem Effect.lines {page after : Page} {state later : State} {request : Option Request}
    {result : Except SessionError (Option Nat)} (env : Environment)
    (effect : Effect page state request result after later)
    (asks : ∀ prompt device, request ≠ some (.startGeneration prompt device)) :
    ∃ kept, Lines env page after kept := by
  have same : Lines env page page page.frames := ⟨rfl, rfl, List.Sublist.refl _, Or.inl rfl⟩
  have removed (frame : Nat) : Lines env page (page.remove frame) (page.remove frame).frames :=
    ⟨rfl, rfl, (Page.remove_drops frame page).sublist, Or.inl rfl⟩
  cases effect with
  | started prompt device name content => exact absurd rfl (asks prompt device)
  | filled payload nodes waits found grown =>
      have plots (node : Node) : (node.append nodes).plot = node.plot := by
        cases node <;> rfl
      exact ⟨page.frames, rfl, rfl, List.Sublist.refl _, Or.inl (Row.plots_kept _ plots _)⟩
  | aborted payload error waits => exact ⟨_, removed _⟩
  | cancelled opened => exact ⟨_, removed _⟩
  | lost payload waits gone grown => exact ⟨page.frames, rfl, rfl, same.sublist, Or.inl rfl⟩
  | _ => exact ⟨_, same⟩

theorem call_lines (env : Environment) (session : Session) (call : Call) :
    ∃ kept, Lines env session.page (session.call env call).2.page kept := by
  by_cases starts : call.Starts
  · obtain ⟨prompt, device, asks⟩ := starts
    cases call with
    | start prompt device => exact ⟨_, session.start_lines env prompt device⟩
    | handle request =>
        cases asks
        exact ⟨_, session.takeNotifications.2.start_lines env prompt device⟩
    | _ => cases asks
  · obtain ⟨result, effect, _⟩ := session.call_effect env call
    exact effect.lines env fun prompt device asks => starts ⟨prompt, device, asks⟩

end Session

namespace Row

variable {α : Type} [Coordinate α] (read : Float32 → α) (env : Environment)

def act (session : Session) (row : List (Plot α)) : Session.Action → List (Plot α)
  | .call made => follow read (session.call env made).2.page row
  | .edit made => edit read session.page row made

def acts (session : Session) (row : List (Plot α)) : List Session.Action → List (Plot α)
  | [] => row
  | action :: rest => acts (session.act env action) (act read env session row action) rest

omit [Coordinate α] in
theorem ids_modify (id : Nat) {change : Plot α → Plot α} (kept : ∀ plot, (change plot).id = plot.id)
    (row : List (Plot α)) : (modify id change row).map Plot.id = row.map Plot.id := by
  induction row with
  | nil => rfl
  | cons plot rest ih =>
      rw [modify]
      split
      · rw [List.map_cons, List.map_cons, kept]
      · rw [List.map_cons, List.map_cons, ih]

section

variable {read} {env} {page after : Page} {kept : List Node} {row : List (Plot α)}

theorem ids_edit (same : row.map Plot.id = page.frames.map Node.id) (made : Page.Edit) :
    (edit read page row made).map Plot.id = (page.edit made).frames.map Node.id := by
  cases made with
  | takeId => exact same
  | add draft =>
      have new : [(page.added draft).id] = [(draft.node (page.lastId + 1)).id] := by
        rw [page.id_added, draft.id_node]
      change (place read page _ row).map Plot.id = (page.add draft).2.frames.map Node.id
      rw [Page.frames_add, place, List.map_append, List.map_append, same, List.map_singleton,
        List.map_singleton, new]
  | appendChild id draft =>
      exact same.trans (Page.ids_modify id (Node.id_append _) page.freshId.2).symm
  | removeChild id child =>
      exact same.trans (Page.ids_modify id (Node.id_removeChild child) page).symm
  | remove id =>
      have fromRow : (row.eraseP fun plot => plot.id = id).map Plot.id =
          (row.map Plot.id).eraseP (· = id) := by
        rw [List.eraseP_map]
        rfl
      have fromPage : (page.frames.eraseP fun frame => frame.id = id).map Node.id =
          (page.frames.map Node.id).eraseP (· = id) := by
        rw [List.eraseP_map]
        rfl
      exact fromRow.trans ((congrArg _ same).trans fromPage.symm)
  | move id position =>
      have moves (plot : Plot α) : (moved read (position.getD .origin) plot).id = plot.id := rfl
      have kept := ids_modify id moves row
      exact kept.trans
        (same.trans (Page.ids_modify id (Node.id_withPosition position) page).symm)
  | resize id size =>
      have resizes (plot : Plot α) : (resized read size.width plot).id = plot.id := by
        unfold resized
        split <;> rfl
      have kept := ids_modify id resizes row
      exact kept.trans (same.trans (Page.ids_modify id (Node.id_resize size) page).symm)

variable (read) in
theorem follow_cases (lines : Session.Lines env page after kept) (numbered : page.Numbered)
    (same : row.map Plot.id = page.frames.map Node.id) :
    (follow read after row = still kept row ∧
      after.frames.map Node.plot = kept.map Node.plot) ∨
    ∃ prompt device,
      let new := Page.added { page with frames := kept } (Session.draft env prompt device)
      follow read after row = place read after new (still kept row) ∧
        after.frames = kept ++ [new] := by
  rcases lines.frames with plots | ⟨prompt, device, frames⟩
  · have ids : after.frames.map Node.id = kept.map Node.id := by
      have numbers := congrArg (List.map Plot.id) plots
      rwa [List.map_map, List.map_map] at numbers
    exact Or.inl ⟨follow_kept read same lines.sublist ids, plots⟩
  · exact Or.inr ⟨prompt, device,
      follow_added read same lines.sublist numbered.fresh frames, frames⟩

theorem ids_follow (lines : Session.Lines env page after kept) (numbered : page.Numbered)
    (same : row.map Plot.id = page.frames.map Node.id) :
    (follow read after row).map Plot.id = after.frames.map Node.id := by
  have stays := still_ids same lines.sublist numbered.distinct
  rcases follow_cases read lines numbered same with
    ⟨followed, plots⟩ | ⟨prompt, device, followed, frames⟩
  · have numbers := congrArg (List.map Plot.id) plots
    rw [List.map_map, List.map_map] at numbers
    rw [followed, stays]
    exact numbers.symm
  · rw [followed, frames, place, List.map_append, List.map_append, stays]
    rfl

theorem follow_plots (lines : Session.Lines env page after kept) (numbered : page.Numbered) :
    follow id after (page.frames.map Node.plot) = after.frames.map Node.plot := by
  have same : (page.frames.map Node.plot).map Plot.id = page.frames.map Node.id := by
    rw [List.map_map]
    rfl
  have stays := still_plots lines.sublist numbered.distinct
  rcases follow_cases id lines numbered same with
    ⟨followed, plots⟩ | ⟨prompt, device, followed, frames⟩
  · rw [followed, stays, plots]
  · have placed := place_plots { page with frames := kept } (Session.draft env prompt device)
    rw [Page.frames_add] at placed
    rw [followed, frames, stays, ← placed]
    unfold place
    rw [lines.gap, lines.viewport]
    rfl

theorem numbered_follow (lines : Session.Lines env page after kept) (numbered : page.Numbered) :
    (after.frames.map Node.id).Nodup := by
  rcases lines.frames with plots | ⟨prompt, device, frames⟩
  · have numbers := congrArg (List.map Plot.id) plots
    rw [List.map_map, List.map_map] at numbers
    exact numbers ▸ numbered.keep lines.sublist
  · rw [frames]
    exact numbered.add lines.sublist (Page.id_added _ _)

end

/-- A row has the frames of a page with this gap and view, in their order. -/
structure Tracks (gap : Float32) (viewport : Viewport) (page : Page) (row : List (Plot α)) :
    Prop where
  numbered : page.Numbered
  ids : row.map Plot.id = page.frames.map Node.id
  gap : page.gap = gap
  viewport : page.viewport = viewport

variable {gap : Float32} {viewport : Viewport} {session : Session}

theorem Tracks.act {row : List (Plot α)} (tracks : Tracks gap viewport session.page row)
    (action : Session.Action) :
    Tracks gap viewport (session.act env action).page (act read env session row action) := by
  cases action with
  | call made =>
      obtain ⟨kept, lines⟩ := session.call_lines env made
      obtain ⟨result, effect, _⟩ := session.call_effect env made
      exact
        { numbered := ⟨effect.bounded tracks.numbered.bounded,
            numbered_follow lines tracks.numbered⟩
          ids := ids_follow lines tracks.numbered tracks.ids
          gap := lines.gap.trans tracks.gap
          viewport := lines.viewport.trans tracks.viewport }
  | edit made =>
      have kept : (session.page.edit made).gap = session.page.gap ∧
          (session.page.edit made).viewport = session.page.viewport := by
        cases made <;> exact ⟨rfl, rfl⟩
      exact
        { numbered := tracks.numbered.edit made
          ids := ids_edit tracks.ids made
          gap := kept.1.trans tracks.gap
          viewport := kept.2.trans tracks.viewport }

theorem Tracks.acts {row : List (Plot α)} (tracks : Tracks gap viewport session.page row)
    (actions : List Session.Action) :
    Tracks gap viewport (session.acts env actions).page (acts read env session row actions) := by
  induction actions generalizing session row with
  | nil => exact tracks
  | cons action rest ih => exact ih (tracks.act read env action)

theorem acts_plots (numbered : session.page.Numbered) (actions : List Session.Action) :
    acts id env session (session.page.frames.map Node.plot) actions =
      (session.acts env actions).page.frames.map Node.plot := by
  induction actions generalizing session with
  | nil => rfl
  | cons action rest ih =>
      have step : act id env session (session.page.frames.map Node.plot) action =
          (session.act env action).page.frames.map Node.plot := by
        cases action with
        | call made =>
            obtain ⟨kept, lines⟩ := session.call_lines env made
            exact follow_plots lines numbered
        | edit made => exact edit_plots session.page made
      have ids : (session.page.frames.map Node.plot).map Plot.id =
          session.page.frames.map Node.id := by
        rw [List.map_map]
        rfl
      have tracks : Tracks session.page.gap session.page.viewport session.page
          (session.page.frames.map Node.plot) := ⟨numbered, ids, rfl, rfl⟩
      rw [acts, step]
      exact ih (tracks.act id env action).numbered

/-- A frame that is not in the row yet goes to its end, beside what is left of the row. -/
def Adds (gap : ℚ) (row after : List (Plot ℚ)) : Prop :=
  ∀ plot ∈ after, plot.id ∉ row.map Plot.id →
    ∃ kept, kept.Sublist row ∧ after = kept ++ [plot] ∧
      (kept ≠ [] → Box.Beside gap (kept.map Plot.box) plot.box)

variable {row : List (Plot ℚ)}

theorem adds_nothing {after : List (Plot ℚ)}
    (old : (after.map Plot.id).Subset (row.map Plot.id)) (gap : ℚ) : Adds gap row after := by
  intro plot present new
  exact absurd (old (List.mem_map_of_mem present)) new

theorem place_adds (page : Page) (node : Node) {kept : List (Plot ℚ)} (sub : kept.Sublist row) :
    Adds (exact page.gap) row (place exact page node kept) := by
  obtain ⟨added, placed, _, _, _, beside⟩ := place_spec page node kept
  intro plot present new
  rw [placed] at present ⊢
  rcases List.mem_append.mp present with old | last
  · exact absurd (List.mem_map_of_mem (sub.subset old)) new
  · rw [List.mem_singleton.mp last]
    exact ⟨kept, sub, rfl, beside⟩

theorem act_adds (tracks : Tracks gap viewport session.page row) (action : Session.Action) :
    Adds (exact gap) row (act exact env session row action) := by
  rw [← tracks.gap]
  cases action with
  | call made =>
      obtain ⟨kept, lines⟩ := session.call_lines env made
      have sub (frames : List Node) : (still frames row).Sublist row := List.filter_sublist
      change Adds _ row (follow exact (session.call env made).2.page row)
      rcases follow_cases exact lines tracks.numbered tracks.ids with
        ⟨followed, _⟩ | ⟨prompt, device, followed, _⟩
      · rw [followed]
        exact adds_nothing ((sub kept).map Plot.id).subset _
      · rw [followed, ← lines.gap]
        exact place_adds _ _ (sub kept)
  | edit made =>
      rcases session.page.edit_adds made with ⟨draft, rfl⟩ | sub
      · exact place_adds _ _ (List.Sublist.refl row)
      · apply adds_nothing
        change ((edit exact session.page row made).map Plot.id).Subset _
        rw [ids_edit tracks.ids made, tracks.ids]
        exact sub.subset

theorem mobile_wide : 0 ≤ exact Device.mobile.size.width := by
  have decoded : Binary.decodeSingle Device.mobile.size.width = .finite false 12288000 (-15) := by
    decide +kernel
  exact Binary.exact_nonneg decoded

theorem device_wide {config : Config}
    (wide : ∀ device ∈ config.devices, 0 ≤ exact device.size.width) (requested : String) :
    0 ≤ exact (config.device requested).size.width := by
  unfold Config.device
  dsimp only
  cases named : (config.devices.drop 1).find? _ with
  | some device => exact wide device (List.mem_of_mem_drop (List.mem_of_find?_eq_some named))
  | none =>
      cases first : config.devices.head? with
      | none => exact mobile_wide
      | some device => exact wide device (List.mem_of_head? first)

theorem call_lined (tracks : Tracks gap viewport session.page row)
    (wide : ∀ device ∈ env.config.devices, 0 ≤ exact device.size.width)
    (lined : Lined (exact gap) (exact viewport.top + 100) row) (made : Session.Call) :
    Lined (exact gap) (exact viewport.top + 100)
      (follow exact (session.call env made).2.page row) := by
  obtain ⟨kept, lines⟩ := session.call_lines env made
  have stays := lined.still kept
  rcases follow_cases exact lines tracks.numbered tracks.ids with
    ⟨followed, _⟩ | ⟨prompt, device, followed, _⟩
  · rw [followed]
    exact stays
  · rw [followed]
    rw [← tracks.gap, ← tracks.viewport, ← lines.gap, ← lines.viewport] at stays ⊢
    exact stays.place (device_wide wide device)

theorem calls_lined (tracks : Tracks gap viewport session.page row)
    (wide : ∀ device ∈ env.config.devices, 0 ≤ exact device.size.width)
    (lined : Lined (exact gap) (exact viewport.top + 100) row) {actions : List Session.Action}
    (calls : ∀ action ∈ actions, ∃ made, action = .call made) :
    Lined (exact gap) (exact viewport.top + 100) (acts exact env session row actions) := by
  induction actions generalizing session row with
  | nil => exact lined
  | cons action rest ih =>
      obtain ⟨made, rfl⟩ := calls action List.mem_cons_self
      have later : ∀ action ∈ rest, ∃ made, action = .call made :=
        fun action listed => calls action (List.mem_cons_of_mem _ listed)
      exact ih (tracks.act exact env (.call made)) (call_lined env tracks wide lined made) later

end Row

namespace Session

/-- Frames never overlap. Followed in the numbers of the page a row is the page, and followed in
exact numbers it has the frames of the page. There calls alone keep a gap between any two frames,
from left to right in the order of the page, and all frames level; and whatever else is done to the
page, a new frame lies beside the frames that it finds. -/
theorem frames_line_up {env : Environment} (apart : 0 ≤ exact env.config.frame.gap)
    (wide : ∀ device ∈ env.config.devices, 0 ≤ exact device.size.width) (viewport : Viewport)
    (actions : List Action) :
    let start := new env viewport
    let session := start.acts env actions
    let row := Row.acts exact env start [] actions
    let gap := exact env.config.frame.gap
    Row.acts id env start [] actions = session.page.frames.map Node.plot ∧
    row.map Plot.id = session.page.frames.map Node.id ∧
    ((∀ action ∈ actions, ∃ made, action = .call made) →
      row.Pairwise (fun left right => left.box.right + gap ≤ right.box.left) ∧
      row.Pairwise (fun left right => left.box.left ≤ right.box.left) ∧
      ∀ plot ∈ row, plot.box.top = exact viewport.top + 100) ∧
    ∀ action, Row.Adds gap row (Row.act exact env session row action) := by
  intro start session row gap
  have numbered : start.page.Numbered := .empty viewport env.config.frame.gap
  have begins : Row.Tracks env.config.frame.gap viewport start.page ([] : List (Plot ℚ)) :=
    ⟨numbered, rfl, rfl, rfl⟩
  have tracks := begins.acts exact env actions
  refine ⟨Row.acts_plots env numbered actions, tracks.ids, ?_, Row.act_adds env tracks⟩
  intro calls
  have lined := Row.calls_lined env begins wide .nil calls
  exact ⟨lined.apart, lined.ordered apart, lined.level⟩

/-- A design and the empty destination that is opened after it. -/
theorem frames_line_up_two :
    let env : Environment := ⟨.standard, .builtin, Font.ofFaces (Font.family "Inter"), .library⟩
    let viewport : Viewport := ⟨⟨500, 300⟩, 40⟩
    let actions : List Action := [.call (.start "a form" "mobile"),
      .call (.render (.tree (.array []))), .call (.start "a cart" "desktop")]
    let row := Row.acts exact env (new env viewport) [] actions
    let gap := exact env.config.frame.gap
    0 ≤ gap ∧ (∀ device ∈ env.config.devices, 0 ≤ exact device.size.width) ∧
      row.map Plot.id = [1, 2] ∧
      row.Pairwise (fun left right => left.box.right + gap ≤ right.box.left) ∧
      ∀ plot ∈ row, plot.box.top = exact 40 + 100 := by
  intro env viewport actions row gap
  have apart : 0 ≤ gap := by
    have decoded : Binary.decodeSingle env.config.frame.gap = .finite false 13107200 (-17) := by
      decide +kernel
    exact Binary.exact_nonneg decoded
  have tablet : Binary.decodeSingle 768 = .finite false 12582912 (-14) := by decide +kernel
  have desktop : Binary.decodeSingle 1440 = .finite false 11796480 (-13) := by decide +kernel
  have wide : ∀ device ∈ env.config.devices, 0 ≤ exact device.size.width := by
    intro device listed
    rcases List.mem_cons.mp listed with rfl | listed
    · exact Row.mobile_wide
    · rcases List.mem_cons.mp listed with rfl | listed
      · exact Binary.exact_nonneg tablet
      · rw [List.mem_singleton.mp listed]
        exact Binary.exact_nonneg desktop
  have calls : ∀ action ∈ actions, ∃ made, action = .call made := by
    intro action listed
    simp only [actions, List.mem_cons, List.not_mem_nil, or_false] at listed
    rcases listed with rfl | rfl | rfl <;> exact ⟨_, rfl⟩
  obtain ⟨_, ids, lined, _⟩ := frames_line_up apart wide viewport actions
  obtain ⟨between, _, level⟩ := lined calls
  have numbers : ((new env viewport).acts env actions).page.frames.map Node.id = [1, 2] := by
    decide +kernel
  exact ⟨apart, wide, ids.trans numbers, between, level⟩

end Session

end Wireframe
