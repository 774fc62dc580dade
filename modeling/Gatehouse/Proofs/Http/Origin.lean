import Gatehouse.Http.Origin
import Gatehouse.Proofs.Text.Blank
import Gatehouse.Proofs.Url.Site
import Gatehouse.Url.International

/-!
# Sites by their text

Sites are compared by a text that is rebuilt from their parts, so the comparison is right only if
the text can be taken apart again. It can if the reader of URLs is sound: the scheme ends at the first
colon, the host where a host ends, and the number is all that is left. Hence a site is allowed just if
every site is, or if one that is configured or the relay's own has the same scheme, host and port.
-/

namespace Gatehouse

/-! ### Readers of URLs -/

/-- What a policy relies on in its reader: no colon in a scheme, none in the text of a host but between
brackets, and no port that the scheme has anyway. -/
structure UrlReader.Sound (read : UrlReader) : Prop where
  scheme : ∀ s l, read s = some l → ':' ∉ l.scheme.toList
  host : ∀ s l h, read s = some l → l.host = some h → Host.Ends h.toList
  portNumber : ∀ s l n, read s = some l → l.portNumber = some n →
    Url.schemeKind l.scheme ≠ .special n

/-- The reader of browsers is sound, whatever its tables. -/
theorem Url.sound_reader [CharTables] : Url.reader.Sound := by
  have hsited {s : String} {l : Location} (h : Url.reader s = some l) :
      ∃ u : Url, u.Sited ∧ u.location = l := by
    rw [reader] at h
    split at h
    · next u hu => exact ⟨u, sited_of_ofText? hu, Option.some.inj h⟩
    · cases h
  refine ⟨fun s l h => ?_, fun s l host h hhost => ?_, fun s l n h hn => ?_⟩
  · obtain ⟨u, hu, rfl⟩ := hsited h
    exact hu.scheme
  · obtain ⟨u, hu, rfl⟩ := hsited h
    obtain ⟨k, hk, rfl⟩ := Option.map_eq_some_iff.mp hhost
    exact hu.host k hk
  · obtain ⟨u, hu, rfl⟩ := hsited h
    exact hu.portNumber n hn

namespace Location

/-- The number of the socket that a URL leads to. -/
def effectivePort? (l : Location) : Option Nat :=
  match l.portNumber, Url.schemeKind l.scheme with
  | some n, _ => some n
  | none, .special n => some n
  | none, _ => none

/-- Whether two URLs belong to one site: the same scheme, the same host up to the case of ASCII
letters, and the same port, be it written or the default of the scheme. -/
def SameSite (l m : Location) : Prop :=
  l.scheme = m.scheme ∧
    (∃ h k, l.host = some h ∧ m.host = some k ∧ Text.lower h = Text.lower k) ∧
    l.effectivePort? = m.effectivePort?

/-- With one scheme the ports are the same just if they are written the same way, if none is written
that the scheme has anyway. -/
theorem effectivePort?_eq_iff {l m : Location}
    (hl : ∀ n, l.portNumber = some n → Url.schemeKind l.scheme ≠ .special n)
    (hm : ∀ n, m.portNumber = some n → Url.schemeKind m.scheme ≠ .special n)
    (hscheme : l.scheme = m.scheme) :
    l.effectivePort? = m.effectivePort? ↔ l.portNumber = m.portNumber := by
  have hnot {a b : Location} {n : Nat} (ha : Url.schemeKind a.scheme ≠ .special n)
      (hsame : a.scheme = b.scheme) (hsome : a.portNumber = some n) (hnone : b.portNumber = none) :
      a.effectivePort? ≠ b.effectivePort? := by
    rw [hsame] at ha
    rw [effectivePort?, effectivePort?, hsome, hnone]
    cases hkind : Url.schemeKind b.scheme with
    | special k =>
      rw [hkind] at ha
      simpa using fun heq : n = k => ha (heq ▸ rfl)
    | file => simp
    | other => simp
  constructor
  · intro heff
    cases hlp : l.portNumber with
    | none =>
      cases hmp : m.portNumber with
      | none => rfl
      | some k => exact absurd heff.symm (hnot (hm k hmp) hscheme.symm hmp hlp)
    | some n =>
      cases hmp : m.portNumber with
      | none => exact absurd heff (hnot (hl n hlp) hscheme hlp hmp)
      | some k => simpa [effectivePort?, hlp, hmp] using heff
  · intro hsame
    rw [effectivePort?, effectivePort?, hsame, hscheme]

end Location

namespace Origin

/-! ### The text of a site -/

/-- Whether the parts of a site can be found in its text. -/
structure Legible (o : Origin) : Prop where
  scheme : ':' ∉ o.scheme.toList
  host : Host.Ends o.host.toList

/-- What stands behind the host. -/
def ending : Option Nat → List Char
  | some n => ':' :: Nat.toDigits 10 n
  | none => []

theorem toList_text (o : Origin) :
    o.text.toList
      = o.scheme.toList ++ ':' :: ('/' :: '/' :: (o.host.toList ++ ending o.portNumber)) := by
  obtain ⟨scheme, host, _ | n⟩ := o
  · show (scheme ++ "://" ++ host).toList = _
    simp [ending]
  · show (scheme ++ "://" ++ host ++ ":" ++ toString n).toList = _
    simp [ending, Nat.toString_eq_repr, Nat.toList_repr]

theorem ending_injective {m n : Option Nat} (h : ending m = ending n) : m = n := by
  cases m with
  | none =>
    cases n with
    | none => rfl
    | some n => cases h
  | some m =>
    cases n with
    | none => cases h
    | some n => exact congrArg some (Text.toDigits_injective (List.cons.inj h).2)

/-- The host is what is read up to the colon behind it. -/
theorem Legible.hostChars_eq {o : Origin} (h : o.Legible) (n : Option Nat) :
    Url.hostChars false (o.host.toList ++ ending n) = o.host.toList := by
  rw [Url.hostChars_append_of_ends h.host]
  cases n with
  | none => exact List.append_nil _
  | some n => exact List.append_nil _

theorem Legible.text_inj {o p : Origin} (ho : o.Legible) (hp : p.Legible) :
    o.text = p.text ↔ o = p := by
  constructor
  · intro htext
    rw [← String.toList_inj, toList_text, toList_text] at htext
    have hcut := Text.cutChars_eq_some_iff.mpr ⟨htext, hp.scheme⟩
    rw [Text.cutChars_eq_some_iff.mpr ⟨rfl, ho.scheme⟩] at hcut
    obtain ⟨hscheme, hrest⟩ := Prod.mk.inj (Option.some.inj hcut)
    have hbehind : o.host.toList ++ ending o.portNumber = p.host.toList ++ ending p.portNumber :=
      (List.cons.inj (List.cons.inj hrest).2).2
    have hhost : o.host.toList = p.host.toList := by
      rw [← ho.hostChars_eq o.portNumber, hbehind, hp.hostChars_eq]
    rw [hhost] at hbehind
    have hnumber := ending_injective (List.append_cancel_left hbehind)
    obtain ⟨oscheme, ohost, onumber⟩ := o
    obtain ⟨pscheme, phost, pnumber⟩ := p
    rw [mk.injEq]
    exact ⟨String.toList_inj.mp hscheme, String.toList_inj.mp hhost, hnumber⟩
  · rintro rfl
    rfl

/-! ### Reading a site -/

variable {read : UrlReader}

theorem ofText?_eq_some_iff {s : String} {o : Origin} :
    ofText? read s = some o ↔
      ∃ l h, read (Text.trim s) = some l ∧ l.host = some h ∧
        o = ⟨l.scheme, Text.lower h, l.portNumber⟩ := by
  rw [ofText?, Option.bind_eq_some_iff]
  constructor
  · rintro ⟨l, hl, ho⟩
    obtain ⟨h, hh, rfl⟩ := Option.map_eq_some_iff.mp ho
    exact ⟨l, h, hl, hh, rfl⟩
  · rintro ⟨l, h, hl, hh, rfl⟩
    exact ⟨l, hl, Option.map_eq_some_iff.mpr ⟨h, hh, rfl⟩⟩

theorem legible_of_ofText? (hread : read.Sound) {s : String} {o : Origin}
    (h : ofText? read s = some o) : o.Legible := by
  obtain ⟨l, host, hl, hhost, rfl⟩ := ofText?_eq_some_iff.mp h
  refine ⟨hread.scheme _ l hl, ?_⟩
  show Host.Ends (Text.lower host).toList
  rw [Text.lower, String.toList_ofList]
  exact (hread.host _ l host hl hhost).map_toLower

/-- Two texts name sites of one text just if they name one site. -/
theorem canonical?_eq_some_iff (hread : read.Sound) {s t : String} {o : Origin}
    (hs : ofText? read s = some o) : canonical? read t = some o.text ↔ ofText? read t = some o := by
  constructor
  · intro ht
    obtain ⟨p, hp, htext⟩ := Option.map_eq_some_iff.mp ht
    have hsame : p = o :=
      ((legible_of_ofText? hread hp).text_inj (legible_of_ofText? hread hs)).mp htext
    rw [hp, hsame]
  · intro ht
    rw [canonical?, ht]
    rfl

/-- A text names the site of a URL just if it is read as a URL of that site. -/
theorem ofText?_eq_some_iff_sameSite (hread : read.Sound) {s t : String} {o : Origin} {l : Location}
    (hs : ofText? read s = some o) (hl : read (Text.trim s) = some l) :
    ofText? read t = some o ↔ ∃ m, read (Text.trim t) = some m ∧ l.SameSite m := by
  obtain ⟨l', h, hl', hh, rfl⟩ := ofText?_eq_some_iff.mp hs
  obtain rfl : l' = l := Option.some.inj (hl'.symm.trans hl)
  have hports {m : Location} (hm : read (Text.trim t) = some m) (hscheme : l'.scheme = m.scheme) :
      l'.effectivePort? = m.effectivePort? ↔ l'.portNumber = m.portNumber :=
    Location.effectivePort?_eq_iff (fun n => hread.portNumber _ l' n hl)
      (fun n => hread.portNumber _ m n hm) hscheme
  constructor
  · intro ht
    obtain ⟨m, k, hm, hk, hsame⟩ := ofText?_eq_some_iff.mp ht
    obtain ⟨hscheme, hhost, hnumber⟩ := mk.inj hsame
    exact ⟨m, hm, hscheme, ⟨h, k, hh, hk, hhost⟩, (hports hm hscheme).mpr hnumber⟩
  · rintro ⟨m, hm, hscheme, ⟨h', k, hh', hk, hhost⟩, hport⟩
    obtain rfl : h' = h := Option.some.inj (hh'.symm.trans hh)
    have hnumber := (hports hm hscheme).mp hport
    refine ofText?_eq_some_iff.mpr ⟨m, k, hm, hk, ?_⟩
    rw [hscheme, hhost, hnumber]

end Origin

namespace OriginPolicy

variable {read : UrlReader} {entries : List String}

/-! ### The decision -/

theorem mem_origins_of {site : String} :
    site ∈ (of read entries).origins ↔
      ∃ e ∈ entries, Text.trim e ≠ "*" ∧ Origin.canonical? read e = some site := by
  show site ∈ (entries.filter fun e => Text.trim e != "*").filterMap (Origin.canonical? read) ↔ _
  rw [List.mem_filterMap]
  constructor
  · rintro ⟨e, he, hsite⟩
    obtain ⟨hmem, hne⟩ := List.mem_filter.mp he
    exact ⟨e, hmem, bne_iff_ne.mp hne, hsite⟩
  · rintro ⟨e, he, hne, hsite⟩
    exact ⟨e, List.mem_filter.mpr ⟨he, bne_iff_ne.mpr hne⟩, hsite⟩

theorem allowAll_of :
    (of read entries).allowAll = true ↔ ∃ e ∈ entries, Text.trim e = "*" := by
  show (entries.any fun e => Text.trim e == "*") = true ↔ _
  simp only [List.any_eq_true, beq_iff_eq]

/-- The texts that can stand for the site that asks: the configured entries, and the relay's own site
as the client sees it. -/
def Names (entries : List String) (host : Option String) (scheme site : String) : Prop :=
  site ∈ entries ∨
    ∃ h, host = some h ∧ Text.trim h ≠ "" ∧ site = scheme ++ "://" ++ Text.trim h

theorem own?_eq_some_iff {p : OriginPolicy} {host : Option String} {scheme site : String} :
    p.own? host scheme = some site ↔
      ∃ h, host = some h ∧ Text.trim h ≠ "" ∧
        Origin.canonical? p.read (scheme ++ "://" ++ Text.trim h) = some site := by
  rw [own?, Option.bind_eq_some_iff]
  constructor
  · rintro ⟨t, ht, hsite⟩
    obtain ⟨h, hh, rfl, hne⟩ := Text.bind_nonBlank?_eq_some_iff.mp ht
    exact ⟨h, hh, hne, hsite⟩
  · rintro ⟨h, hh, hne, hsite⟩
    exact ⟨Text.trim h, Text.bind_nonBlank?_eq_some_iff.mpr ⟨h, hh, rfl, hne⟩, hsite⟩

/-- A site may ask just if every one may, or a text that names the own one or a configured one is read
as a URL of the site. The star is no name of a site, but where it is configured every site may ask. -/
theorem known_iff_sameSite (hread : read.Sound) {host : Option String} {scheme text : String}
    {o : Origin} {l : Location} (ho : Origin.ofText? read text = some o)
    (hl : read (Text.trim text) = some l) :
    ((of read entries).allowAll = true ∨ (of read entries).own? host scheme = some o.text ∨
        o.text ∈ (of read entries).origins) ↔
      (∃ e ∈ entries, Text.trim e = "*") ∨
        ∃ site m, Names entries host scheme site ∧ read (Text.trim site) = some m ∧
          l.SameSite m := by
  have hnames (site : String) : Origin.canonical? read site = some o.text ↔
      ∃ m, read (Text.trim site) = some m ∧ l.SameSite m :=
    (Origin.canonical?_eq_some_iff hread ho).trans
      (Origin.ofText?_eq_some_iff_sameSite hread ho hl)
  rw [allowAll_of, own?_eq_some_iff, mem_origins_of]
  constructor
  · rintro (hstar | ⟨h, hh, hne, hsite⟩ | ⟨e, he, -, hsite⟩)
    · exact .inl hstar
    · obtain ⟨m, hm, hsame⟩ := (hnames _).mp hsite
      exact .inr ⟨_, m, .inr ⟨h, hh, hne, rfl⟩, hm, hsame⟩
    · obtain ⟨m, hm, hsame⟩ := (hnames e).mp hsite
      exact .inr ⟨e, m, .inl he, hm, hsame⟩
  · rintro (hstar | ⟨site, m, he | ⟨h, hh, hne, rfl⟩, hm, hsame⟩)
    · exact .inl hstar
    · by_cases hstar : Text.trim site = "*"
      · exact .inl ⟨site, he, hstar⟩
      · exact .inr (.inr ⟨site, he, hstar, (hnames site).mpr ⟨m, hm, hsame⟩⟩)
    · exact .inr (.inl ⟨h, hh, hne, (hnames _).mpr ⟨m, hm, hsame⟩⟩)

theorem decide_eq_notApplicable_iff {p : OriginPolicy} {origin host : Option String}
    {scheme : String} :
    p.decide origin host scheme = .notApplicable ↔ origin.bind Text.nonBlank? = none := by
  rw [decide]
  split
  · next hnone => simp [hnone]
  · next hsome =>
    rw [hsome]
    split
    · simp
    · split <;> simp

theorem decide_eq_allowed_iff {p : OriginPolicy} {origin host : Option String}
    {scheme text : String} :
    p.decide origin host scheme = .allowed text ↔
      origin.bind Text.nonBlank? = some text ∧
        ∃ site, Origin.canonical? p.read text = some site ∧
          (p.allowAll = true ∨ p.own? host scheme = some site ∨ site ∈ p.origins) := by
  rw [decide]
  split
  · next hnone => simp [hnone]
  · next t ht =>
    rw [ht, Option.some.injEq]
    constructor
    · intro h
      split at h
      · cases h
      · next site hsite =>
        split at h
        · next hknown =>
          obtain rfl := OriginDecision.allowed.inj h
          exact ⟨rfl, site, hsite, or_left_comm.mp hknown⟩
        · cases h
    · rintro ⟨rfl, site, hsite, hknown⟩
      rw [hsite]
      exact if_pos (or_left_comm.mp hknown)

/-- A request that names no site is not concerned. Any other one is allowed, under the text of its
site, just if that text is read as a URL with a host, and every site may ask or a configured one or
the own one has the same scheme, the same host up to the case of its letters and the same port. -/
theorem decide_exact (hread : read.Sound) (entries : List String) (origin host : Option String)
    (scheme : String) :
    ((of read entries).decide origin host scheme = .notApplicable ↔
        origin = none ∨ ∃ o, origin = some o ∧ Text.trim o = "") ∧
      ∀ text, (of read entries).decide origin host scheme = .allowed text ↔
        ∃ o l, origin = some o ∧ Text.trim o = text ∧ text ≠ "" ∧
          read text = some l ∧ l.host.isSome = true ∧
          ((∃ e ∈ entries, Text.trim e = "*") ∨
            ∃ site m, Names entries host scheme site ∧ read (Text.trim site) = some m ∧
              l.SameSite m) := by
  constructor
  · rw [decide_eq_notApplicable_iff, Text.bind_nonBlank?_eq_none_iff]
  · intro text
    rw [decide_eq_allowed_iff, Text.bind_nonBlank?_eq_some_iff]
    constructor
    · rintro ⟨⟨o, ho, htrim, hne⟩, site, hsite, hknown⟩
      obtain ⟨p, hp, rfl⟩ := Option.map_eq_some_iff.mp hsite
      obtain ⟨l, h, hl, hh, -⟩ := Origin.ofText?_eq_some_iff.mp hp
      rw [known_iff_sameSite hread hp hl] at hknown
      rw [← htrim, Text.trim_trim, htrim] at hl
      exact ⟨o, l, ho, htrim, hne, hl, hh ▸ rfl, hknown⟩
    · rintro ⟨o, l, ho, htrim, hne, hl, hhost, hknown⟩
      obtain ⟨h, hh⟩ := Option.isSome_iff_exists.mp hhost
      have htext : read (Text.trim text) = some l := by
        rw [← htrim, Text.trim_trim, htrim]
        exact hl
      have hp := Origin.ofText?_eq_some_iff.mpr ⟨l, h, htext, hh, rfl⟩
      rw [← known_iff_sameSite hread hp htext] at hknown
      exact ⟨⟨o, ho, htrim, hne⟩, _, congrArg (Option.map Origin.text) hp, hknown⟩

/-- A configured site is allowed when its default port is written out, and one is not that has it
for the name of a user. -/
theorem decide_exact_console :
    Url.reader.Sound ∧
      (of Url.reader ["https://Console.example"]).decide (some "https://console.example:443") none
          "https" = .allowed "https://console.example:443" ∧
      (of Url.reader ["https://Console.example"]).decide
          (some "https://console.example@other.example") none "https"
        ≠ .allowed "https://console.example@other.example" := by
  have hlisted : Url.reader "https://Console.example"
      = some ⟨"https", some "console.example", none⟩ := by
    decide +kernel
  refine ⟨Url.sound_reader, ?_, fun hallowed => ?_⟩
  · have hread : Url.reader "https://console.example:443"
        = some ⟨"https", some "console.example", none⟩ := by
      decide +kernel
    refine ((decide_exact Url.sound_reader _ _ _ _).2 _).mpr ⟨_, _, rfl, by decide, by decide, hread,
      rfl, .inr ⟨"https://Console.example", _, .inl (by simp), hlisted, ?_⟩⟩
    exact ⟨rfl, ⟨_, _, rfl, rfl, rfl⟩, rfl⟩
  · have hread : Url.reader "https://console.example@other.example"
        = some ⟨"https", some "other.example", none⟩ := by
      decide +kernel
    obtain ⟨o, l, -, -, -, hl, -, hknown⟩ :=
      ((decide_exact Url.sound_reader _ _ _ _).2 _).mp hallowed
    obtain rfl := Option.some.inj (hread.symm.trans hl)
    obtain ⟨e, he, hstar⟩ | ⟨site, m, hsite | ⟨h, hh, -⟩, hm, hsame⟩ := hknown
    · rw [List.mem_singleton.mp he] at hstar
      exact absurd hstar (by decide)
    · rw [List.mem_singleton.mp hsite] at hm
      obtain rfl := Option.some.inj (hlisted.symm.trans hm)
      obtain ⟨-, ⟨h, k, hh, hk, hhost⟩, -⟩ := hsame
      obtain rfl := Option.some.inj hh
      obtain rfl := Option.some.inj hk
      exact absurd hhost (by decide)
    · cases hh

end OriginPolicy

end Gatehouse
