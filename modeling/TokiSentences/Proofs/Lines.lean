import TokiSentences.Proofs.JsonRecords
import TokiSentences.Proofs.Session

namespace TokiSentences

theorem unlines_append (xs ys : List String) : unlines (xs ++ ys) = unlines xs ++ unlines ys := by
  simp only [unlines, List.map_append, String.join_append]

theorem Generator.answer_takes {g : Generator Seeded} (hw : g.workers ≤ 1) {n : Nat}
    {sources : List Seeded} {rest : Seeded}
    (h : Source.takes n g.shared.source = (.ok sources, rest)) :
    ∃ xs : List Sentence, xs.length = n ∧ xs.map .ok = sources.map g.lexicon.sentenceFrom ∧
      ∀ turns, g.answer (.batch n) turns =
        (.ok xs, { g with shared := { g.shared with source := rest } }) := by
  have hhold :
      g.shared.hold (Source.takes n) = (.ok sources, { g.shared with source := rest }) := by
    cases hs : g.shared.spoiled <;> simp [Shared.hold, Shared.lock, hs, h]
  obtain ⟨xs, hxs, hmap⟩ := Pool.generate_one hw
    (fun (s : Seeded) (_ : s ∈ sources) => g.lexicon.sentenceFrom_seeded s) []
  have hlen := congrArg List.length hmap
  rw [List.length_map, List.length_map, Source.length_of_takes h] at hlen
  refine ⟨xs, hlen, hmap, ?_⟩
  intro turns
  rw [Pool.generate_one_any_turns hw [] turns] at hxs
  simp only [answer, reserve, hhold]
  exact congrArg (·, _) hxs

namespace Shell

/-- A command that neither draws sentences nor sets a seed nor ends the session. -/
def Command.idle : Command → Bool
  | help | words _ | badRole _ | unknown _ | badCount | noSeed | badSeed _ => true
  | quit | generate _ _ | seed _ => false

def Line.idle : Line → Bool
  | blank => true
  | command c => c.idle
  | headless => false

namespace Arrival

def command? (a : Arrival) : Option Command :=
  a.line.bind fun line =>
    match Line.read line with
    | .command c => some c
    | _ => none

theorem command?_congr {a b : Arrival} (h : a.line = b.line) : a.command? = b.command? := by
  rw [command?, command?, h]

def idle (a : Arrival) : Bool := a.line.any fun line => (Line.read line).idle

def Restyled (a b : Arrival) : Prop :=
  a.line = b.line ∨ ∃ style style' n,
    a.command? = some (.generate style n) ∧ b.command? = some (.generate style' n)

/-- What is shown at two lines, if the session comes to them: the same when they are the same line,
and the same sentences when both ask for as many. -/
structure ShownAlike (a b : Arrival) (o o' : Option (Option Output)) : Prop where
  same : a.line = b.line → o = o'
  restyled : ∀ style style' n,
    a.command? = some (.generate style n) → b.command? = some (.generate style' n) →
    o = none ∧ o' = none ∨ ∃ xs : List Sentence, xs.length = n ∧
      o = some (some (.sentences style xs)) ∧ o' = some (some (.sentences style' xs))

theorem shownAlike_none (a b : Arrival) : a.ShownAlike b none none :=
  ⟨fun _ => rfl, fun _ _ _ _ _ => .inl ⟨rfl, rfl⟩⟩

theorem shownAlike_of_ne {a b : Arrival} (h : ∀ style n, a.command? ≠ some (.generate style n))
    (o : Option (Option Output)) : a.ShownAlike b o o :=
  ⟨fun _ => rfl, fun style _ n ha _ => absurd ha (h style n)⟩

theorem shownAlike_of_generate {a b : Arrival} {style style' : Style} {n : Nat}
    (ha : a.command? = some (.generate style n)) (hb : b.command? = some (.generate style' n))
    {xs : List Sentence} (hlen : xs.length = n) :
    a.ShownAlike b (some (some (.sentences style xs))) (some (some (.sentences style' xs))) where
  same := by
    intro hline
    have hcommand := command?_congr hline
    rw [ha, hb] at hcommand
    obtain rfl : style = style' := by simpa using hcommand
    rfl
  restyled := by
    intro style₁ style₂ m ha' hb'
    obtain ⟨rfl, rfl⟩ : style = style₁ ∧ n = m := by simpa [ha] using ha'
    obtain rfl : style' = style₂ := by simpa [hb] using hb'
    exact .inr ⟨xs, hlen, rfl, rfl⟩

theorem exists_line_of_command? {a : Arrival} {c : Command} (h : a.command? = some c) :
    ∃ line, a = ⟨some line, a.turns⟩ ∧ Line.read line = .command c := by
  obtain ⟨line, turns⟩ := a
  obtain ⟨line, rfl, hc⟩ := Option.bind_eq_some_iff.1 h
  refine ⟨line, rfl, ?_⟩
  split at hc
  · rename_i hline
    cases hc
    exact hline
  · cases hc

end Arrival

namespace Session

def shown (s : Session) (as : List Arrival) : List (Option Output) := (s.replies as).map Reply.shown

theorem shown_cons_of_go {s u : Session} {line : String} {turns : List Pool.Turn} {o : Output}
    (h : s.respond line turns = .go o u) (rest : List Arrival) :
    s.shown (⟨some line, turns⟩ :: rest) = some o :: u.shown rest := by
  simp only [shown, replies, h, List.map_cons, Reply.shown]

theorem shown_cons_of_leave {s : Session} {line : String} {turns : List Pool.Turn} {o : Output}
    (h : s.respond line turns = .leave o) (rest : List Arrival) :
    s.shown (⟨some line, turns⟩ :: rest) = [some o] := by
  simp only [shown, replies, h, List.map_cons, List.map_nil, Reply.shown]

theorem shown_cons_of_crash {s : Session} {line : String} {turns : List Pool.Turn}
    (h : s.respond line turns = .crash) (rest : List Arrival) :
    s.shown (⟨some line, turns⟩ :: rest) = [none] := by
  simp only [shown, replies, h, List.map_cons, List.map_nil, Reply.shown]

theorem shown_append {s u : Session} {before : List Arrival} (h : s.after? before = some u)
    (after : List Arrival) : s.shown (before ++ after) = s.shown before ++ u.shown after := by
  simp only [shown, replies_append h, List.map_append]

theorem respond_of_idle {line : String} (h : (Line.read line).idle) (s : Session)
    (turns : List Pool.Turn) : ∃ ls, s.respond line turns = .go (.lines ls) s := by
  unfold respond
  cases hline : Line.read line with
  | blank => exact ⟨[], rfl⟩
  | headless => simp [hline, Line.idle] at h
  | command c =>
    rw [hline] at h
    cases c with
    | quit | generate | seed => simp [Line.idle, Command.idle] at h
    | help | badCount | words | badRole | noSeed | badSeed | unknown => exact ⟨_, rfl⟩

theorem shown_cons_of_idle {a : Arrival} (h : a.idle) (s : Session) (rest : List Arrival) :
    ∃ ls, s.shown (a :: rest) = some (.lines ls) :: s.shown rest := by
  obtain ⟨line, turns⟩ := a
  obtain ⟨line, rfl, hline⟩ := (Option.any_eq_true _ _).1 h
  obtain ⟨ls, hr⟩ := respond_of_idle hline s turns
  exact ⟨ls, shown_cons_of_go hr rest⟩

theorem respond_of_command? {a : Arrival} {c : Command} (h : a.command? = some c) (s : Session) :
    ∃ line, a = ⟨some line, a.turns⟩ ∧ s.respond line a.turns = s.obey a.turns c := by
  obtain ⟨line, ha, hline⟩ := Arrival.exists_line_of_command? h
  exact ⟨line, ha, by simp only [respond, hline]⟩

section

variable {workers : Nat} {s t : Session} (hw : workers ≤ 1) (h : s.Alike workers t)

include hw h

theorem Alike.shown {as bs : List Arrival} (hl : as.map (·.line) = bs.map (·.line)) :
    s.shown as = t.shown bs :=
  shown_congr hw (h.replies hl)

theorem Alike.shown_cons {a b : Arrival} (hab : a.line = b.line) (as bs : List Arrival) :
    (∃ (o : Option Output) (u v : Session), u.Alike workers v ∧
      s.shown (a :: as) = o :: u.shown as ∧ t.shown (b :: bs) = o :: v.shown bs) ∨
    ∃ os : List (Option Output), os.length ≤ 1 ∧ s.shown (a :: as) = os ∧
      t.shown (b :: bs) = os := by
  obtain ⟨line, turns⟩ := a
  obtain ⟨line', turns'⟩ := b
  obtain rfl : line = line' := hab
  cases line with
  | none => exact .inr ⟨[], Nat.zero_le 1, rfl, rfl⟩
  | some line =>
    have hreply := h.respond line turns turns'
    generalize hr : s.respond line turns = r at hreply
    generalize hr' : t.respond line turns' = r' at hreply
    cases hreply with
    | go ho hnext =>
      rw [← ho.eq hw] at hr'
      exact .inl ⟨_, _, _, hnext, shown_cons_of_go hr as, shown_cons_of_go hr' bs⟩
    | leave ho =>
      rw [← ho.eq hw] at hr'
      exact .inr ⟨[_], Nat.le_refl 1, shown_cons_of_leave hr as, shown_cons_of_leave hr' bs⟩
    | crash =>
      exact .inr ⟨[none], Nat.le_refl 1, shown_cons_of_crash hr as, shown_cons_of_crash hr' bs⟩

theorem Alike.shown_kept {marked : List (Bool × Arrival)} {kept : List Arrival}
    (hidle : ∀ p ∈ marked, p.1 = false → p.2.idle)
    (hkept : kept.map (·.line) = (marked.filter (·.1)).map (·.2.line)) :
    ((marked.zip (s.shown (marked.map (·.2)))).filter (·.1.1)).map (·.2) = t.shown kept := by
  induction marked generalizing s t kept with
  | nil =>
    obtain rfl : kept = [] := by simpa using hkept
    rfl
  | cons p marked ih =>
    obtain ⟨mark, a⟩ := p
    have hidle' := fun q hq => hidle q (List.mem_cons_of_mem _ hq)
    cases mark with
    | false =>
      obtain ⟨ls, hshown⟩ := shown_cons_of_idle (hidle _ List.mem_cons_self rfl) s
        (marked.map (·.2))
      simpa [hshown] using ih h hidle' (by simpa using hkept)
    | true =>
      cases kept with
      | nil => simp at hkept
      | cons k kept =>
        obtain ⟨hline, hrest⟩ : k.line = a.line ∧
            kept.map (·.line) = (marked.filter (·.1)).map (·.2.line) := by simpa using hkept
        rcases h.shown_cons hw hline.symm (marked.map (·.2)) kept with
          ⟨o, u, v, hnext, hs, ht⟩ | ⟨os, hos, hs, ht⟩
        · rw [List.map_cons, hs, ht]
          simpa using ih hnext hidle' hrest
        · rw [List.map_cons, hs, ht]
          match os, hos with
          | [], _ => rfl
          | [o], _ => simp

end

theorem Alike.after? {workers : Nat} {s t : Session} (h : s.Alike workers t)
    {before before' : List Arrival} (hl : before.map (·.line) = before'.map (·.line)) {u : Session}
    (hu : s.after? before = some u) : ∃ v, t.after? before' = some v ∧ u.Alike workers v := by
  induction before generalizing s t before' with
  | nil =>
    obtain rfl : before' = [] := by simpa using hl.symm
    obtain rfl : s = u := by simpa [Session.after?] using hu
    exact ⟨t, rfl, h⟩
  | cons a before ih =>
    cases before' with
    | nil => cases hl
    | cons b before' =>
      obtain ⟨line, turns, o, s', rfl, hr, hu⟩ := after?_cons hu
      obtain ⟨line', turns'⟩ := b
      obtain ⟨rfl, hrest⟩ : some line = line' ∧ before.map (·.line) = before'.map (·.line) := by
        simpa using hl
      have hreply := h.respond line turns turns'
      rw [hr] at hreply
      generalize hr' : t.respond line turns' = r' at hreply
      cases hreply with
      | go ho hnext =>
        obtain ⟨v, hv, halike⟩ := ih hnext hrest hu
        exact ⟨v, by simp only [Session.after?, hr', hv], halike⟩

theorem shown_cons_of_answer {s : Session} {a : Arrival} {style : Style} {n : Nat}
    {xs : List Sentence} {shared : Shared Seeded} (ha : a.command? = some (.generate style n))
    (h : s.generator.answer (.batch n) a.turns = (.ok xs, { s.generator with shared }))
    (rest : List Arrival) :
    s.shown (a :: rest) = some (.sentences style xs) :: (s.withShared shared).shown rest := by
  obtain ⟨line, hline, hr⟩ := respond_of_command? ha s
  rw [obey, generate, h] at hr
  rw [hline]
  exact shown_cons_of_go hr rest

section

variable {workers : Nat} {s t : Session} (hw : workers ≤ 1) (h : s.Alike workers t)

include hw h

theorem Alike.shown_restyled {a b : Arrival} {style style' : Style} {n : Nat}
    (ha : a.command? = some (.generate style n)) (hb : b.command? = some (.generate style' n))
    (as bs : List Arrival) :
    ∃ (xs : List Sentence) (u v : Session), xs.length = n ∧ u.Alike workers v ∧
      s.shown (a :: as) = some (.sentences style xs) :: u.shown as ∧
      t.shown (b :: bs) = some (.sentences style' xs) :: v.shown bs := by
  have hone : s.generator.workers ≤ 1 := by rwa [h.workers_eq]
  obtain ⟨sources, htakes⟩ := Source.takes_of_splits (Seeded.splits n s.generator.shared.source)
  obtain ⟨xs, hlen, -, hanswer⟩ := Generator.answer_takes hone htakes
  refine ⟨xs, _, _, hlen, h.withShared _, shown_cons_of_answer ha (hanswer _) as, ?_⟩
  apply shown_cons_of_answer hb
  rw [← h.generator]
  exact hanswer _

theorem Alike.shown_added {a b c : Arrival} {style₁ style₂ style₃ : Style} {m n : Nat}
    (ha : a.command? = some (.generate style₁ m)) (hb : b.command? = some (.generate style₂ n))
    (hc : c.command? = some (.generate style₃ (m + n))) (as bs : List Arrival) :
    ∃ (xs ys : List Sentence) (u v : Session), xs.length = m ∧ ys.length = n ∧
      u.Alike workers v ∧
      s.shown (a :: b :: as) =
        some (.sentences style₁ xs) :: some (.sentences style₂ ys) :: u.shown as ∧
      t.shown (c :: bs) = some (.sentences style₃ (xs ++ ys)) :: v.shown bs := by
  have hone : s.generator.workers ≤ 1 := by rwa [h.workers_eq]
  obtain ⟨sources, htakes⟩ :=
    Source.takes_of_splits (Seeded.splits (m + n) s.generator.shared.source)
  -- the large batch splits off what the two small ones do, one after the other
  obtain ⟨first, others, between, hfirst, hothers, rfl⟩ := Source.takes_add htakes
  let shared : Shared Seeded := { s.generator.shared with source := between }
  obtain ⟨xs, hm, hxs, hanswer₁⟩ := Generator.answer_takes hone hfirst
  obtain ⟨ys, hn, hys, hanswer₂⟩ :=
    Generator.answer_takes (g := (s.withShared shared).generator) hone hothers
  obtain ⟨zs, -, hzs, hanswer₃⟩ := Generator.answer_takes hone htakes
  obtain rfl : zs = xs ++ ys := by
    apply List.map_injective_iff.2 fun _ _ => Except.ok.inj
    rw [hzs, List.map_append, List.map_append, hxs, hys]
    rfl
  refine ⟨xs, ys, _, _, hm, hn, h.withShared
    { s.generator.shared with source := Source.after (m + n) s.generator.shared.source }, ?_, ?_⟩
  · rw [shown_cons_of_answer ha (hanswer₁ _), shown_cons_of_answer hb (hanswer₂ _)]
    rfl
  · apply shown_cons_of_answer hc
    rw [← h.generator]
    exact hanswer₃ _

theorem Alike.shown_cons_restyled {a b : Arrival} (hab : a.Restyled b) (as bs : List Arrival) :
    (∃ (o o' : Option Output) (u v : Session), u.Alike workers v ∧
      a.ShownAlike b (some o) (some o') ∧ s.shown (a :: as) = o :: u.shown as ∧
      t.shown (b :: bs) = o' :: v.shown bs) ∨
    ∃ os : List (Option Output), os.length ≤ 1 ∧ a.ShownAlike b os[0]? os[0]? ∧
      s.shown (a :: as) = os ∧ t.shown (b :: bs) = os := by
  by_cases hgenerate : ∃ style style' n,
      a.command? = some (.generate style n) ∧ b.command? = some (.generate style' n)
  · obtain ⟨style, style', n, ha, hb⟩ := hgenerate
    obtain ⟨xs, u, v, hlen, hnext, hs, ht⟩ := h.shown_restyled hw ha hb as bs
    exact .inl ⟨_, _, u, v, hnext, Arrival.shownAlike_of_generate ha hb hlen, hs, ht⟩
  · have hline : a.line = b.line := hab.resolve_right hgenerate
    have hne : ∀ style n, a.command? ≠ some (.generate style n) := by
      intro style n ha
      exact hgenerate ⟨style, style, n, ha, Arrival.command?_congr hline ▸ ha⟩
    rcases h.shown_cons hw hline as bs with ⟨o, u, v, hnext, hs, ht⟩ | ⟨os, hos, hs, ht⟩
    · exact .inl ⟨o, o, u, v, hnext, Arrival.shownAlike_of_ne hne _, hs, ht⟩
    · exact .inr ⟨os, hos, Arrival.shownAlike_of_ne hne _, hs, ht⟩

theorem Alike.shownAlike {as bs : List Arrival} (hab : List.Forall₂ Arrival.Restyled as bs)
    {i : Nat} {a b : Arrival} (ha : as[i]? = some a) (hb : bs[i]? = some b) :
    a.ShownAlike b (s.shown as)[i]? (t.shown bs)[i]? := by
  induction hab generalizing s t i with
  | nil => cases ha
  | cons hab₀ _ ih =>
    rcases h.shown_cons_restyled hw hab₀ _ _ with
      ⟨o, o', u, v, hnext, halike, hs, ht⟩ | ⟨os, hos, halike, hs, ht⟩
    all_goals rw [hs, ht]
    · cases i with
      | zero =>
        cases ha
        cases hb
        exact halike
      | succ i => exact ih hnext ha hb
    · cases i with
      | zero =>
        cases ha
        cases hb
        exact halike
      | succ i =>
        rw [List.getElem?_eq_none (by omega)]
        exact Arrival.shownAlike_none a b

end

theorem exists_start_alike_of_seed {host host' : Host} {o : Options} {s : Session} {k : Nat}
    (hdisk : host'.disk o.lexicon = host.disk o.lexicon) (hcores : host'.cores = host.cores)
    (hs : start host o = .ok s) (hseed : o.seed = some k) :
    ∃ t, start host' o = .ok t ∧ s.Alike s.generator.workers t := by
  have ho : { o with seed := some k } = o := by rw [← hseed]
  obtain ⟨t, ht, halike⟩ := exists_start_alike hdisk hcores hs k
  obtain ⟨s', hs', halike'⟩ := exists_start_alike rfl rfl hs k
  rw [ho] at ht hs'
  obtain rfl : s = s' := Except.ok.inj (hs.symm.trans hs')
  exact ⟨t, ht, halike'.right, halike.right, halike'.generator.symm.trans halike.generator, rfl⟩

end Session

theorem Output.exists_read_verbose (xs : List Sentence) :
    ∃ j bs, Json.read? (Output.sentences .verbose xs).text = some j ∧
      Breakdown.listOfJson? j = some bs ∧ bs.map (·.sentence) = xs.map (·.text) := by
  refine ⟨_, xs.map (·.breakdown), ?_, Breakdown.listOfJson?_prettyList _, ?_⟩
  · have htext : (Output.sentences .verbose xs).text =
        (Breakdown.prettyList (xs.map (·.breakdown))).pretty ++ "\n" := by
      simp [Output.text, unlines]
    rw [htext]
    exact (Breakdown.plain_prettyList _).read?_pretty_line
  · rw [List.map_map]
    rfl

theorem Output.brief_append (xs ys : List Sentence) :
    (Output.sentences .brief (xs ++ ys)).text =
      (Output.sentences .brief xs).text ++ (Output.sentences .brief ys).text := by
  simp only [Output.text, List.map_append, unlines_append]

/-- In a session with a seed and a single worker, lines that neither generate nor reseed may be left
away and no other line shows anything else. Nor does it when a batch is asked for in another style,
which then shows the same sentences, and two batches show those of one as large as both. The other
run may be on another host with the same dictionary and cores. -/
theorem shown_of_edited_lines {host host' : Host} {arguments : List String} {o : Options}
    {s : Session} {k : Nat} (hdisk : host'.disk o.lexicon = host.disk o.lexicon)
    (hcores : host'.cores = host.cores) (hread : Options.read arguments = .ok o)
    (hseed : o.seed = some k) (hopen : openWith host arguments = .session s)
    (hworkers : s.generator.workers ≤ 1) :
    ∃ t, openWith host' arguments = .session t ∧
    (∀ (marked : List (Bool × Arrival)) (kept : List Arrival),
      (∀ p ∈ marked, p.1 = false → p.2.idle) →
      kept.map (·.line) = (marked.filter (·.1)).map (·.2.line) →
      ((marked.zip (s.shown (marked.map (·.2)))).filter (·.1.1)).map (·.2) = t.shown kept) ∧
    (∀ as bs : List Arrival, List.Forall₂ Arrival.Restyled as bs →
      ∀ (i : Nat) (a b : Arrival), as[i]? = some a → bs[i]? = some b →
        a.ShownAlike b (s.shown as)[i]? (t.shown bs)[i]?) ∧
    (∀ (before before' after after' : List Arrival) (a b c : Arrival)
      (style₁ style₂ style₃ : Style) (m n : Nat),
      before.map (·.line) = before'.map (·.line) → after.map (·.line) = after'.map (·.line) →
      a.command? = some (.generate style₁ m) → b.command? = some (.generate style₂ n) →
      c.command? = some (.generate style₃ (m + n)) → (s.after? before).isSome →
      ∃ (xs ys : List Sentence) (rest : List (Option Output)), xs.length = m ∧ ys.length = n ∧
        s.shown (before ++ a :: b :: after) = s.shown before ++
          some (.sentences style₁ xs) :: some (.sentences style₂ ys) :: rest ∧
        t.shown (before' ++ c :: after') =
          s.shown before ++ some (.sentences style₃ (xs ++ ys)) :: rest) ∧
    (∀ xs : List Sentence, ∃ j bs,
      Json.read? (Output.sentences .verbose xs).text = some j ∧
      Breakdown.listOfJson? j = some bs ∧ bs.map (·.sentence) = xs.map (·.text) ∧
      (Output.sentences .brief xs).text = unlines (bs.map (·.sentence))) ∧
    ∀ xs ys : List Sentence, (Output.sentences .brief (xs ++ ys)).text =
      (Output.sentences .brief xs).text ++ (Output.sentences .brief ys).text := by
  obtain ⟨t, ht, halike⟩ := Session.exists_start_alike_of_seed hdisk hcores
    ((openWith_eq_session_iff hread).1 hopen) hseed
  refine ⟨t, (openWith_eq_session_iff hread).2 ht, ?_, ?_, ?_, ?_, Output.brief_append⟩
  · intro marked kept hidle hkept
    exact halike.shown_kept hworkers hidle hkept
  · intro as bs hab i a b ha hb
    exact halike.shownAlike hworkers hab ha hb
  · intro before before' after after' a b c style₁ style₂ style₃ m n hbefore hafter ha hb hc hsome
    obtain ⟨u, hu⟩ := Option.isSome_iff_exists.1 hsome
    obtain ⟨v, hv, halike'⟩ := halike.after? hbefore hu
    obtain ⟨xs, ys, u', v', hm, hn, hnext, hshown, hshown'⟩ :=
      halike'.shown_added hworkers ha hb hc after after'
    refine ⟨xs, ys, u'.shown after, hm, hn, ?_, ?_⟩
    · rw [Session.shown_append hu, hshown]
    · rw [Session.shown_append hv, hshown', halike.shown hworkers hbefore,
        hnext.shown hworkers hafter]
  · intro xs
    obtain ⟨j, bs, hj, hbs, hfields⟩ := Output.exists_read_verbose xs
    refine ⟨j, bs, hj, hbs, hfields, ?_⟩
    rw [hfields]
    rfl

theorem shown_of_edited_lines_three :
    let disk : Disk := fun _ => .ok (.file Dictionary.leastText.toUTF8)
    let host : Host := ⟨disk, 1, 8⟩
    let host' : Host := ⟨disk, 2, 8⟩
    let arguments := ["--lexicon", "least.ron", "--seed", "4", "--workers", "0"]
    let typed (text : String) : Arrival := { line := some text }
    let marked := [(true, typed "gen 2"), (false, typed " "), (false, typed "gen 51"),
      (true, typed "verbose")]
    ∃ s t : Session, openWith host arguments = .session s ∧ openWith host' arguments = .session t ∧
      ((marked.zip (s.shown (marked.map (·.2)))).filter (·.1.1)).map (·.2) =
        t.shown [typed "gen 2", typed "verbose"] ∧
      ∃ (xs ys : List Sentence) (rest : List (Option Output)), xs.length = 1 ∧ ys.length = 2 ∧
        s.shown [typed "help", typed "GEN", typed "verbose 2"] = s.shown [typed "help"] ++
          some (.sentences .brief xs) :: some (.sentences .verbose ys) :: rest ∧
        t.shown [typed "help", typed "gen 3"] =
          s.shown [typed "help"] ++ some (.sentences .brief (xs ++ ys)) :: rest := by
  intro disk host host' arguments typed marked
  have hread : Options.read arguments = .ok ⟨"least.ron", some 4, some 0⟩ := by decide +kernel
  have hdisk : host'.disk "least.ron" = host.disk "least.ron" := rfl
  have hcores : host'.cores = host.cores := rfl
  obtain ⟨s, hs, hworkers⟩ := exists_start_least host ⟨"least.ron", some 4, some 0⟩ rfl
  have hopen := (openWith_eq_session_iff hread).2 hs
  obtain ⟨t, ht, hkept, -, hadded, -⟩ :=
    shown_of_edited_lines hdisk hcores hread rfl hopen (hworkers ▸ by decide)
  refine ⟨s, t, hopen, ht, hkept marked _ (by decide +kernel) rfl, ?_⟩
  exact hadded [typed "help"] [typed "help"] [] [] (typed "GEN") (typed "verbose 2")
    (typed "gen 3") .brief .verbose .brief 1 2 rfl rfl (by decide +kernel) (by decide +kernel)
    (by decide +kernel) rfl

end Shell

end TokiSentences
