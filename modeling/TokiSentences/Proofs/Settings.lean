import Mathlib.Data.List.Induction
import TokiSentences.Generator.Setup
import TokiSentences.Proofs.Catalogue
import TokiSentences.Proofs.Generator

namespace TokiSentences

theorem getLast?_filterMap_append_singleton (kind : β → Option α) (xs : List β) (x : β) :
    ((xs ++ [x]).filterMap kind).getLast? = (kind x).or (xs.filterMap kind).getLast? := by
  rw [List.filterMap_append, List.getLast?_append]
  cases h : kind x <;> simp [h]

namespace Setting

def seed? : Setting → Option UInt64
  | seed n => some n
  | _ => none

def workers? : Setting → Option Nat
  | workers n => some n
  | _ => none

def words? : Setting → Option (List Word)
  | words ws => some ws
  | _ => none

def dictionary? : Setting → Option String
  | dictionary path => some path
  | _ => none

def last? (kind : Setting → Option α) (settings : List Setting) : Option α :=
  (settings.filterMap kind).getLast?

structure SameLast (settings settings' : List Setting) : Prop where
  seed : last? seed? settings' = last? seed? settings
  workers : last? workers? settings' = last? workers? settings
  words : last? words? settings' = last? words? settings
  dictionary : last? dictionary? settings' = last? dictionary? settings

theorem last?_append_singleton (kind : Setting → Option α) (settings : List Setting)
    (s : Setting) : last? kind (settings ++ [s]) = (kind s).or (last? kind settings) :=
  getLast?_filterMap_append_singleton kind settings s

end Setting

theorem Generator.elim_withWorkers (g : Generator σ) (asked : Option Nat) :
    asked.elim g g.withWorkers = { g with workers := asked.elim g.workers (max · 1) } := by
  cases asked <;> rfl

namespace Setup

open Setting

theorem ofSettings_append_singleton (settings : List Setting) (s : Setting) :
    ofSettings (settings ++ [s]) = (ofSettings settings).set s := by
  simp [ofSettings]

theorem ofSettings_eq (settings : List Setting) : ofSettings settings =
    { seed := last? seed? settings, workers := last? workers? settings,
      words := last? words? settings, dictionary := last? dictionary? settings } := by
  -- From the back, where the setting stands that counts.
  induction settings using List.reverseRecOn with
  | nil => rfl
  | append_singleton settings s ih =>
    rw [ofSettings_append_singleton, ih]
    simp only [last?_append_singleton]
    cases s <;> rfl

def loaded (disk : Disk) : Option String → Except DictionaryError (List Word)
  | none => .ok []
  | some path => Dictionary.load disk path

theorem allWords_eq (s : Setup) (disk : Disk) :
    s.allWords disk = (s.words.getD [] ++ ·) <$> loaded disk s.dictionary := by
  unfold allWords loaded
  cases s.dictionary with
  | none => simp [Except.map_ok]
  | some path => rfl

section

variable {s : Setup} {host : Host}

theorem build_of_load_error {e : DictionaryError} (h : loaded host.disk s.dictionary = .error e) :
    s.build host = .error (.dictionary e) := by
  rw [build, allWords_eq, h]
  rfl

variable {added : List Word} (h : loaded host.disk s.dictionary = .ok added)

include h

theorem build_of_refused {e : LexiconError}
    (he : Lexicon.ofWords (s.words.getD [] ++ added) = .error e) :
    s.build host = .error (.lexicon e) := by
  rw [build, allWords_eq, h]
  simp only [Except.map_ok, Generator.ofWords, he]

theorem build_of_accepted {lx : Lexicon}
    (hlx : Lexicon.ofWords (s.words.getD [] ++ added) = .ok lx) :
    s.build host = .ok ⟨lx, ⟨.ofSeed (s.seed.getD host.entropy), false⟩,
      s.workers.elim host.cores (max · 1)⟩ := by
  rw [build, allWords_eq, h]
  simp only [Except.map_ok, Generator.ofWords, hlx, Generator.elim_withWorkers]

omit h in
theorem build_eq_ok_iff {g : Generator Seeded} : s.build host = .ok g ↔
    ∃ added lx, loaded host.disk s.dictionary = .ok added ∧
      Lexicon.ofWords (s.words.getD [] ++ added) = .ok lx ∧
      g = ⟨lx, ⟨.ofSeed (s.seed.getD host.entropy), false⟩,
        s.workers.elim host.cores (max · 1)⟩ := by
  constructor
  · intro hg
    cases hadded : loaded host.disk s.dictionary with
    | error e => simp [build_of_load_error hadded] at hg
    | ok added =>
      cases hlx : Lexicon.ofWords (s.words.getD [] ++ added) with
      | error e => simp [build_of_refused hadded hlx] at hg
      | ok lx =>
        rw [build_of_accepted hadded hlx] at hg
        exact ⟨added, lx, rfl, hlx, (Except.ok.inj hg).symm⟩
  · rintro ⟨added, lx, hadded, hlx, rfl⟩
    exact build_of_accepted hadded hlx

end

/-- Of the settings only the last of each kind counts. A dictionary that does not load is reported,
whatever the words; else the words are those given last and then those of the dictionary, and what
is wrong with them is reported, or there is a generator of them. With a seed given, it is the one
that is made of the words and the seed directly and then told how many workers to have, and nothing
that is done with the two tells them apart. -/
theorem build_ofSettings (settings : List Setting) (host : Host) :
    let path? := last? dictionary? settings
    let given := (last? words? settings).getD []
    let asked := last? workers? settings
    let built := (ofSettings settings).build host
    (∀ settings', SameLast settings settings' → (ofSettings settings').build host = built) ∧
    (∀ path e, path? = some path → Dictionary.load host.disk path = .error e →
      built = .error (.dictionary e)) ∧
    ∀ added, loaded host.disk path? = .ok added →
      (∀ e, Lexicon.ofWords (given ++ added) = .error e → built = .error (.lexicon e)) ∧
      ∀ lx, Lexicon.ofWords (given ++ added) = .ok lx → ∃ g, built = .ok g ∧ g.lexicon = lx ∧
        g.workers = asked.elim host.cores (max · 1) ∧
        ∀ seed, last? seed? settings = some seed → ∃ direct,
          Generator.ofWords host.cores (given ++ added) (Seeded.ofSeed seed) = .ok direct ∧
          g = asked.elim direct direct.withWorkers ∧
          g.Indistinguishable (asked.elim direct direct.withWorkers) := by
  intro path? given asked built
  have hsetup := ofSettings_eq settings
  refine ⟨?last, ?unloaded, ?loaded⟩
  case last =>
    intro settings' h
    simp only [built, ofSettings_eq, h.seed, h.workers, h.words, h.dictionary]
  case unloaded =>
    intro path e hpath he
    apply build_of_load_error
    rw [hsetup]
    simpa only [path?, hpath] using! he
  case loaded =>
    intro added hadded
    have hadded' : loaded host.disk (ofSettings settings).dictionary = .ok added := by
      rw [hsetup]
      exact hadded
    have hgiven : (ofSettings settings).words.getD [] = given := by rw [hsetup]
    refine ⟨fun e he => build_of_refused hadded' (by rwa [hgiven]), ?_⟩
    intro lx hlx
    refine ⟨_, build_of_accepted hadded' (by rwa [hgiven]), rfl, by rw [hsetup], ?_⟩
    intro seed hseed
    have hdirect : Generator.ofWords host.cores (given ++ added) (Seeded.ofSeed seed) =
        .ok ⟨lx, ⟨.ofSeed seed, false⟩, host.cores⟩ := by
      rw [Generator.ofWords, hlx]
    refine ⟨_, hdirect, ?_⟩
    simp only [Generator.elim_withWorkers, hsetup, hseed, Option.getD_some, asked]
    exact ⟨trivial, .refl _⟩

theorem build_ofSettings_repeated :
    let disk : Disk := fun path =>
      if path = "least.ron" then .ok (.file Dictionary.leastText.toUTF8) else .error .missing
    let host : Host := ⟨disk, 1, 8⟩
    let settings : List Setting := [.workers 5, .dictionary "lost.ron", .seed 3, .words [],
      .dictionary "least.ron", .words Lexicon.small, .seed 7, .workers 0]
    let settings' : List Setting :=
      [.seed 7, .workers 0, .dictionary "least.ron", .words Lexicon.small]
    (ofSettings settings').build host = (ofSettings settings).build host ∧
    (∃ g direct, (ofSettings settings).build host = .ok g ∧ g.lexicon.size = 10 ∧ g.workers = 1 ∧
      Generator.ofWords 8 (Lexicon.small ++ Dictionary.leastWords) (Seeded.ofSeed 7) = .ok direct ∧
      g.Indistinguishable (direct.withWorkers 0)) ∧
    (ofSettings (settings ++ [.dictionary "lost.ron"])).build host =
      .error (.dictionary (.file .missing)) := by
  intro disk host settings settings'
  obtain ⟨hlast, -, hloaded⟩ := build_ofSettings settings host
  have hleast : loaded host.disk (last? dictionary? settings) = .ok Dictionary.leastWords :=
    Dictionary.ofNode_leastText
  obtain ⟨lx, hlx, hsize⟩ : ∃ lx,
      Lexicon.ofWords (Lexicon.small ++ Dictionary.leastWords) = .ok lx ∧ lx.size = 10 :=
    ⟨_, rfl, rfl⟩
  obtain ⟨g, hg, rfl, hworkers, hseeded⟩ := (hloaded _ hleast).2 lx hlx
  obtain ⟨direct, hdirect, -, hsame⟩ := hseeded 7 rfl
  refine ⟨hlast settings' ⟨rfl, rfl, rfl, rfl⟩,
    ⟨g, direct, hg, hsize, hworkers, hdirect, hsame⟩, ?_⟩
  exact (build_ofSettings (settings ++ [.dictionary "lost.ron"]) host).2.1 "lost.ron" _ rfl rfl

end Setup

end TokiSentences
