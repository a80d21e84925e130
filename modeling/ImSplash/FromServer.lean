import ImSplash.AppRounds
import ImSplash.Provenance

/-!
# From the server to the store

If the server reads the URLs of the requests of the Home screen and answers with the pages of
its list, the Home screen is served from the photos of that list.  So the grid shows photos of
the list only, and nothing is recorded, listed or transferred but these, however often requests
fail, are cancelled and made again.
-/

namespace ImSplash
open Runs

/-- The event has the Home screen appear. -/
def ServedAppEvent.appears : ServedAppEvent → Bool
  | .app (.home .viewWillAppear) | .app .back | .app .touchBtnClose => true
  | _ => false

namespace ServedApp
variable {decoder : JSONDecoder} {jsonObject : Data → Option JSON}
  {data : List JSON → Except NSError Data}
  {serialize : ParameterDictionary → Except NSError Data} {server : PhotoServer}
  {served after : ServedApp} {whole : AppDependencies}

/-! ### The Home screen -/

/-- **The run of the Home screen**: whatever happens to the app and its requests, if the server
answers what it is asked, the Home screen is served from the photos of its collection. -/
theorem servedFrom_along (realm : Realm) (files : FileManager) (documentsPath : URL)
    {events : List ServedAppEvent}
    (hserved : (machine (UnsplashPhotoPicker.coding decoder jsonObject data) serialize).Along
      (fun served event _ => ServedBy decoder jsonObject data server served event)
      (launch realm files documentsPath) events) :
    HomeScreen.machine.Along
      (fun screen event _ => screen.ServedFrom (photos decoder server) event)
      (HomeScreen.launch editorial)
      ((homeProjection (UnsplashPhotoPicker.coding decoder jsonObject data) serialize).trace
        (launch realm files documentsPath) events) := by
  have hkept : ∀ served event after, Sound decoder jsonObject data serialize server served →
      (machine (UnsplashPhotoPicker.coding decoder jsonObject data) serialize).step served event =
        some after → ServedBy decoder jsonObject data server served event →
      Sound decoder jsonObject data serialize server after ∧
        ∀ home, served.homeEvent event = some home →
          served.whole.home.ServedFrom (photos decoder server) home := by
    intro served event after h hstep hserved
    exact ⟨h.step hserved hstep, fun home hhome => h.servedFrom_homeEvent hstep hhome⟩
  have hwired := AppDependencies.wired_launch realm files documentsPath
  refine ((homeProjection (UnsplashPhotoPicker.coding decoder jsonObject data)
    serialize).along_trace_iff (s := launch realm files documentsPath)
      (R := fun screen event _ => screen.ServedFrom (photos decoder server) event)
      ⟨trivial, hwired⟩ events).mpr ?_
  exact Machine.along_of_invariant hkept (sound_launch realm files documentsPath) hserved

section
open PhotoServer UnsplashPhotoPicker

abbrev galleryLaunch : ServedApp :=
  launch ⟨[], List.nodup_nil⟩ ⟨fun _ => none⟩ ⟨"file:///Documents"⟩

/-- The Home screen appears again before the first answer, and that request is cancelled; the
next one fails.  Then the first page comes. -/
def cancelled : List ServedAppEvent :=
  [.app (.home .viewWillAppear), .start 0 .identity, .app (.home .viewWillAppear),
    .processResponse 0 ⟨none, none, some ⟨"NSURLErrorDomain", -999⟩⟩, .completionBlock 0,
    .start 1 .identity, .processResponse 1 ⟨some (.http 500), none, none⟩, .completionBlock 1]

/-- After a cancelled request and a failed one the first page comes, its first photo is made a
favourite and downloaded, and the other page comes. -/
def favourited : List ServedAppEvent :=
  cancelled ++ (round (.home .viewWillAppear) 2 (galleryAnswer 0) ++
    ((List.replicate 7 (.home .mainQueue)).map .app ++
      ((AppDependencies.visitDetail 0 0 ⟨200, [1]⟩ {}).map .app ++
        round (.home (.willDisplay 11)) 3 (galleryAnswer 1))))

theorem run_favourited :
    ∃ after, galleryMachine.Run galleryLaunch favourited
        after ∧
      galleryMachine.Along ByGallery galleryLaunch
        favourited ∧
      after.whole.home.view.photos = coloredGallery ∧
      after.whole.app.realm.isFavorite "0" = true ∧
      after.whole.app.realm.downloadedPath "0" ≠ none := by
  have hlaunch : GallerySound galleryLaunch := sound_launch _ _ _
  have hbegin : galleryMachine.Run galleryLaunch
      cancelled _ :=
    .cons rfl (.cons rfl (.cons rfl (.cons rfl (.cons rfl (.cons rfl (.cons rfl (.cons rfl
      (.nil _))))))))
  have hnone : ∀ event ∈ cancelled, event.body? = none := by decide
  have hfailed : galleryMachine.Along ByGallery galleryLaunch cancelled :=
    Machine.along_of_forall (fun event hevent _ _ => servedBy_of_body (hnone event hevent)) _
  have hbegun := hlaunch.run hbegin hfailed
  obtain ⟨first, hfirst, hserved₁, hsound₁, hwhole₁⟩ :=
    run_galleryPage hbegun rfl (.home .viewWillAppear) rfl rfl 0 2 rfl rfl rfl rfl rfl
  obtain ⟨shown, hblocks, hserved₂, hsound₂, hwhole₂⟩ :=
    hsound₁.run_app hwhole₁ (List.replicate 7 (.home .mainQueue)) (by decide)
      (.cons rfl (.cons rfl (.cons rfl (.cons rfl (.cons rfl (.cons rfl (.cons rfl (.nil _))))))))
  have hwired := hsound₂.wired
  rw [hwhole₂] at hwired
  obtain ⟨closed, hvisit, hhome, hrealm⟩ := AppDependencies.run_visitDetail hwired
    (hwired.onTop_iff.mpr rfl) 0 rfl (by decide) rfl rfl rfl rfl ⟨200, [1]⟩ {}
  obtain ⟨visited, hvisited, hserved₃, hsound₃, hwhole₃⟩ :=
    hsound₂.run_app hwhole₂ (AppDependencies.visitDetail 0 0 ⟨200, [1]⟩ {}) (by decide) hvisit
  obtain ⟨second, hsecond, hserved₄, -, hwhole₄⟩ :=
    run_galleryPage hsound₃ hwhole₃ (.home (.willDisplay 11)) rfl
      (AppDependencies.step_home hhome rfl) 1 3 (by rw [hhome]; rfl) rfl rfl rfl rfl
  refine ⟨second, hbegin.append (hfirst.append (hblocks.append (hvisited.append hsecond))),
    hfailed.append hbegin (hserved₁.append hfirst (hserved₂.append hblocks
      (hserved₃.append hvisited hserved₄))), ?_, ?_, ?_⟩
  · rw [hwhole₄]
    rfl
  · rw [hwhole₄]
    show closed.app.realm.isFavorite "0" = true
    rw [hrealm]
    rfl
  · rw [hwhole₄]
    show closed.app.realm.downloadedPath "0" ≠ none
    rw [hrealm]
    exact Option.some_ne_none _

theorem servedFrom_along_favourited :
    ∃ after, galleryMachine.Run galleryLaunch favourited after ∧
      after.whole.home.view.photos = coloredGallery ∧
      HomeScreen.machine.Along
        (fun screen event _ => screen.ServedFrom (photos anyURL ofGallery) event)
        (HomeScreen.launch editorial)
        ((homeProjection jsonCoding fun _ => .error ⟨"", 0⟩).trace galleryLaunch favourited) := by
  obtain ⟨after, hrun, hserved, hphotos, -⟩ := run_favourited
  exact ⟨after, hrun, hphotos, servedFrom_along _ _ _ hserved⟩

end

/-! ### The store -/

/-- What the server has in the collection of the Home screen, as far as it can be read. -/
def offered (decoder : JSONDecoder) (server : PhotoServer) : List UnsplashPhoto :=
  (server.collection "317099").filterMap (UnsplashPhotoPicker.photo? decoder)

theorem photos_subset_offered (decoder : JSONDecoder) (server : PhotoServer) :
    photos decoder server ⊆ offered decoder server := by
  intro photo hphoto
  obtain ⟨json, hjson, hread⟩ := List.mem_filterMap.mp hphoto
  exact List.mem_filterMap.mpr ⟨json, List.take_subset _ _ hjson, hread⟩

/-- What holds of the app with its requests, in every state of a run. -/
structure FromServer (decoder : JSONDecoder) (jsonObject : Data → Option JSON)
    (data : List JSON → Except NSError Data)
    (serialize : ParameterDictionary → Except NSError Data) (server : PhotoServer)
    (stored : String → Prop) (served : ServedApp) : Prop where
  sound : Sound decoder jsonObject data serialize server served
  grid : served.whole.home.view.photos ⊆ photos decoder server
  fromGrid : served.whole.FromGrid stored

theorem FromServer.step {stored : String → Prop}
    (h : FromServer decoder jsonObject data serialize server stored served)
    {event : ServedAppEvent} (hserved : ServedBy decoder jsonObject data server served event)
    (hstep : (machine (UnsplashPhotoPicker.coding decoder jsonObject data) serialize).step served
      event = some after) :
    FromServer decoder jsonObject data serialize server stored after := by
  refine ⟨h.sound.step hserved hstep, ?_, ?_⟩
  · cases hhome : served.homeEvent event with
    | none =>
      have hsame : after.whole.home = served.whole.home :=
        (homeProjection _ serialize).stutter ⟨trivial, h.sound.wired⟩ hstep hhome
      rw [hsame]
      exact h.grid
    | some home =>
      have hstep' : HomeScreen.machine.step served.whole.home home = some after.whole.home :=
        (homeProjection _ serialize).step ⟨trivial, h.sound.wired⟩ hstep hhome
      exact HomeScreen.photos_subset_step (h.sound.servedFrom_homeEvent hstep hhome) hstep' h.grid
  · cases happ : served.appEvent event with
    | none =>
      have hsame : after.whole = served.whole :=
        (projection _ serialize).stutter trivial hstep happ
      rw [hsame]
      exact h.fromGrid
    | some app =>
      exact h.fromGrid.step h.sound.wired ((projection _ serialize).step trivial hstep happ)

/-- **From the server to the store.**  In every state of every run of the app whose requests the
server answers, what is shown, recorded, listed or transferred is of photos that the server has,
but for what was stored at the launch. -/
theorem fromServer_along (realm : Realm) (files : FileManager) (documentsPath : URL)
    {events : List ServedAppEvent}
    (hserved : (machine (UnsplashPhotoPicker.coding decoder jsonObject data) serialize).Along
      (fun served event _ => ServedBy decoder jsonObject data server served event)
      (launch realm files documentsPath) events) :
    (machine (UnsplashPhotoPicker.coding decoder jsonObject data) serialize).Along
      (fun _ _ after => after.whole.home.view.photos ⊆ offered decoder server ∧
        after.whole.app.From (fun id => ∃ item ∈ realm.objects, item.id = id)
          (offered decoder server))
      (launch realm files documentsPath) events := by
  have hkept : ∀ served event after,
      FromServer decoder jsonObject data serialize server
        (fun id => ∃ item ∈ realm.objects, item.id = id) served →
      (machine (UnsplashPhotoPicker.coding decoder jsonObject data) serialize).step served event =
        some after → ServedBy decoder jsonObject data server served event →
      FromServer decoder jsonObject data serialize server
          (fun id => ∃ item ∈ realm.objects, item.id = id) after ∧
        after.whole.home.view.photos ⊆ offered decoder server ∧
        after.whole.app.From (fun id => ∃ item ∈ realm.objects, item.id = id)
          (offered decoder server) := by
    intro served event after h hstep hserved
    have hafter := h.step hserved hstep
    have hgrid := List.Subset.trans hafter.grid (photos_subset_offered decoder server)
    exact ⟨hafter, hgrid, hafter.fromGrid.app.mono hgrid⟩
  exact Machine.along_of_invariant hkept
    ⟨sound_launch realm files documentsPath, List.nil_subset _,
      AppDependencies.fromGrid_launch realm files documentsPath⟩ hserved

open PhotoServer UnsplashPhotoPicker in
/-- The photo that is recorded by the end is the server's. -/
theorem fromServer_along_favourited :
    ∃ after, galleryMachine.Run galleryLaunch favourited after ∧
      after.whole.app.realm.isFavorite "0" = true ∧
      after.whole.app.realm.downloadedPath "0" ≠ none ∧
      galleryMachine.Along
        (fun _ _ after => after.whole.home.view.photos ⊆ offered anyURL ofGallery ∧
          after.whole.app.From (fun id => ∃ item ∈ ({} : Realm).objects, item.id = id)
            (offered anyURL ofGallery)) galleryLaunch favourited := by
  obtain ⟨after, hrun, hserved, -, hfavorite, hdownloaded⟩ := run_favourited
  exact ⟨after, hrun, hfavorite, hdownloaded, fromServer_along _ _ _ hserved⟩

/-! ### The grid -/

/-- **The grid is an initial part of the server's collection**, and all of it that can be
delivered when there is no more to fetch, along every such run in which the Home screen, while
it has no photos, appears only with no request in flight. -/
theorem grid_along (realm : Realm) (files : FileManager) (documentsPath : URL)
    {events : List ServedAppEvent}
    (hserved : (machine (UnsplashPhotoPicker.coding decoder jsonObject data) serialize).Along
      (fun served event _ => ServedBy decoder jsonObject data server served event)
      (launch realm files documentsPath) events)
    (hidle : (machine (UnsplashPhotoPicker.coding decoder jsonObject data) serialize).Along
      (fun served event _ => ∀ home, served.homeEvent event = some home →
        served.whole.home.AppearsIdle home)
      (launch realm files documentsPath) events) :
    (machine (UnsplashPhotoPicker.coding decoder jsonObject data) serialize).Along
      (fun _ _ after => after.whole.home.view.photos.map some <+:
          (server.collection "317099").map (UnsplashPhotoPicker.photo? decoder) ∧
        (after.whole.home.dataSource.canFetchMore = false →
          after.whole.home.view.photos = photos decoder server))
      (launch realm files documentsPath) events := by
  have hkept : ∀ served event after,
      (Sound decoder jsonObject data serialize server served ∧
        served.whole.home.Served (photos decoder server)) →
      (machine (UnsplashPhotoPicker.coding decoder jsonObject data) serialize).step served event =
        some after → (ServedBy decoder jsonObject data server served event ∧
          ∀ home, served.homeEvent event = some home → served.whole.home.AppearsIdle home) →
      (Sound decoder jsonObject data serialize server after ∧
        after.whole.home.Served (photos decoder server)) ∧
        after.whole.home.view.photos.map some <+:
          (server.collection "317099").map (UnsplashPhotoPicker.photo? decoder) ∧
        (after.whole.home.dataSource.canFetchMore = false →
          after.whole.home.view.photos = photos decoder server) := by
    rintro served event after ⟨h, hhome⟩ hstep ⟨hserved, hidle⟩
    have hafter : after.whole.home.Served (photos decoder server) := by
      cases hevent : served.homeEvent event with
      | none =>
        have hsame : after.whole.home = served.whole.home :=
          (homeProjection _ serialize).stutter ⟨trivial, h.wired⟩ hstep hevent
        rw [hsame]
        exact hhome
      | some home =>
        have hstep' : HomeScreen.machine.step served.whole.home home = some after.whole.home :=
          (homeProjection _ serialize).step ⟨trivial, h.wired⟩ hstep hevent
        exact HomeScreen.served_step hhome hstep' (h.servedFrom_homeEvent hstep hevent)
          (hidle home hevent)
    have hread : (photos decoder server).map some <+:
        (server.collection "317099").map (UnsplashPhotoPicker.photo? decoder) := by
      have hmap := Paging.map_take_readableLength (UnsplashPhotoPicker.photo? decoder) 30
        (server.collection "317099")
      rw [photos, Fetching.deliverable]
      exact hmap ▸ (List.take_prefix _ _).map _
    refine ⟨⟨h.step hserved hstep, hafter⟩, (hafter.isPrefix.map _).trans hread, fun hlast => ?_⟩
    obtain ⟨k, -, hphotos⟩ := hafter.pages
    rw [hlast] at hphotos
    exact hphotos
  exact Machine.along_of_invariant hkept
    ⟨sound_launch realm files documentsPath, HomeScreen.served_launch _ editorial⟩
    (hserved.and hidle)

theorem appearsIdle_of_appears {event : ServedAppEvent} (h : event.appears = false)
    {home : HomeEvent} (hhome : served.homeEvent event = some home) :
    served.whole.home.AppearsIdle home := by
  refine HomeScreen.appearsIdle_of_ne ?_
  rintro rfl
  cases event with
  | app event =>
    cases event with
    | home event =>
      obtain rfl := Option.some.inj hhome
      cases h
    | back | touchBtnClose => cases h
    | _ => cases hhome
  | start | processResponse => cases hhome
  | completionBlock request =>
    obtain ⟨event, hevent, hhome⟩ := Option.bind_eq_some_iff.mp hhome
    obtain ⟨page, -, rfl⟩ := Option.map_eq_some_iff.mp hevent
    cases hhome

section
open PhotoServer UnsplashPhotoPicker

/-- The first request fails. -/
def failed : List ServedAppEvent :=
  [.app (.home .viewWillAppear), .start 0 .identity,
    .processResponse 0 ⟨some (.http 500), none, none⟩, .completionBlock 0]

/-- The Home screen appears again, and the two pages come. -/
def retried : List ServedAppEvent :=
  failed ++ (round (.home .viewWillAppear) 1 (galleryAnswer 0) ++
    round (.home (.willDisplay 11)) 2 (galleryAnswer 1))

theorem run_retried :
    ∃ after, galleryMachine.Run galleryLaunch retried after ∧
      galleryMachine.Along ByGallery galleryLaunch retried ∧
      after.whole.home.view.photos = coloredGallery := by
  have hlaunch : GallerySound galleryLaunch := sound_launch _ _ _
  have hbegin : galleryMachine.Run galleryLaunch failed _ :=
    .cons rfl (.cons rfl (.cons rfl (.cons rfl (.nil _))))
  have hnone : ∀ event ∈ failed, event.body? = none := by decide
  have hfailed : galleryMachine.Along ByGallery galleryLaunch failed :=
    Machine.along_of_forall (fun event hevent _ _ => servedBy_of_body (hnone event hevent)) _
  have hbegun := hlaunch.run hbegin hfailed
  obtain ⟨first, hfirst, hserved₁, hsound₁, hwhole₁⟩ :=
    run_galleryPage hbegun rfl (.home .viewWillAppear) rfl rfl 0 1 rfl rfl rfl rfl rfl
  obtain ⟨second, hsecond, hserved₂, -, hwhole₂⟩ :=
    run_galleryPage hsound₁ hwhole₁ (.home (.willDisplay 11)) rfl rfl 1 2 rfl rfl rfl rfl rfl
  refine ⟨second, hbegin.append (hfirst.append hsecond),
    hfailed.append hbegin (hserved₁.append hfirst hserved₂), ?_⟩
  rw [hwhole₂]
  rfl

/-- The screen appears before the first request and after it has failed. -/
theorem grid_along_retried :
    ∃ after, galleryMachine.Run galleryLaunch retried after ∧
      after.whole.home.view.photos = coloredGallery ∧
      galleryMachine.Along
        (fun _ _ after => after.whole.home.view.photos.map some <+:
            (ofGallery.collection "317099").map (photo? anyURL) ∧
          (after.whole.home.dataSource.canFetchMore = false →
            after.whole.home.view.photos = photos anyURL ofGallery)) galleryLaunch retried := by
  obtain ⟨after, hrun, hserved, hphotos⟩ := run_retried
  have hrest : ∀ event ∈ retried.drop 5, event.appears = false := by decide
  refine ⟨after, hrun, hphotos, grid_along _ _ _ hserved ?_⟩
  refine (Machine.along_cons rfl).mpr ⟨?_, ?_⟩
  · rintro home ⟨⟩ - - i operation ⟨_, hfind, -⟩
    cases hfind
  refine (Machine.along_cons rfl).mpr ⟨fun _ => appearsIdle_of_appears rfl, ?_⟩
  refine (Machine.along_cons rfl).mpr ⟨fun _ => appearsIdle_of_appears rfl, ?_⟩
  refine (Machine.along_cons rfl).mpr ⟨fun _ => appearsIdle_of_appears rfl, ?_⟩
  refine (Machine.along_cons rfl).mpr ⟨?_, ?_⟩
  · -- The request that failed is no longer in flight.
    rintro home ⟨⟩ - - i operation ⟨_, hfind, -, houtstanding⟩
    cases i with
    | zero =>
      obtain rfl := Option.some.inj hfind
      cases houtstanding
    | succ i => cases hfind
  exact Machine.along_of_forall
    (fun event hevent _ _ _ => appearsIdle_of_appears (hrest event hevent)) _

end

end ServedApp

end ImSplash
