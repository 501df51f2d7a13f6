import LC3.Cli.Arguments

/-! The command line with one switch more. Whether `--minimal` was given makes no difference to how
the rest is read, except that it may not be given again. So it can be put in wherever a switch can
stand, and asks for the same run with less output. -/

namespace LC3.Progress

/-- The same progress, but `--minimal` was given only to `p'`. -/
structure Quieter (p p' : Progress) : Prop where
  path : p'.path = p.path
  verbosity : p'.verbosity = p.verbosity
  loud : .minimal ∉ p.given
  quiet : .minimal ∈ p'.given

/-- What reading any part of the arguments comes to: it never ends early with a run, it keeps what
was given, and where it goes on without `--minimal`, having that before makes no difference. -/
structure Reading (f : Progress → Except Request Progress) : Prop where
  refuses : ∀ {p request}, f p = .error request → ∀ options, request ≠ .run options
  keeps : ∀ {p q}, f p = .ok q → .minimal ∈ p.given → .minimal ∈ q.given
  path : ∀ {p q}, f p = .ok q → p.path = some "" → q.path = some ""
  quieter : ∀ {p p' q}, f p = .ok q → .minimal ∉ q.given → p.Quieter p' →
    ∃ q', f p' = .ok q' ∧ q.Quieter q'

namespace Reading

variable {f g : Progress → Except Request Progress}

theorem nothing : Reading .ok where
  refuses := nofun
  keeps := by rintro p _ ⟨⟩; exact id
  path := by rintro p _ ⟨⟩; exact id
  quieter := by rintro p p' _ ⟨⟩ - quieter; exact ⟨p', rfl, quieter⟩

theorem refusal {request : Progress → Request} (h : ∀ p options, request p ≠ .run options) :
    Reading fun p => .error (request p) where
  refuses := by rintro p _ ⟨⟩; exact h p
  keeps := nofun
  path := nofun
  quieter := nofun

theorem bind_eq_ok {p q : Progress} :
    (f p).bind g = .ok q ↔ ∃ r, f p = .ok r ∧ g r = .ok q := by
  cases f p with
  | error request => simp [Except.bind]
  | ok r => simp [Except.bind]

theorem bind (hf : Reading f) (hg : Reading g) : Reading fun p => (f p).bind g where
  refuses := by
    intro p request h
    rcases first : f p with request' | q <;> rw [first] at h
    · obtain rfl : request' = request := Except.error.inj h
      exact hf.refuses first
    · exact hg.refuses h
  keeps := by
    intro p q h given
    obtain ⟨r, first, second⟩ := bind_eq_ok.1 h
    exact hg.keeps second (hf.keeps first given)
  path := by
    intro p q h path
    obtain ⟨r, first, second⟩ := bind_eq_ok.1 h
    exact hg.path second (hf.path first path)
  quieter := by
    intro p p' q h loud quieter
    obtain ⟨r, first, second⟩ := bind_eq_ok.1 h
    obtain ⟨r', first', quieter'⟩ :=
      hf.quieter first (fun given => loud (hg.keeps second given)) quieter
    obtain ⟨q', second', quieter''⟩ := hg.quieter second loud quieter'
    exact ⟨q', bind_eq_ok.2 ⟨r', first', second'⟩, quieter''⟩

/-- Only from where it goes on can reading come to a run. -/
theorem goesOn (hf : Reading f) {p : Progress} {options : Options} {next : Progress → Request} :
    (match f p with | .ok q => next q | .error request => request) = .run options ↔
      ∃ q, f p = .ok q ∧ next q = .run options := by
  rcases read : f p with request | q
  · exact ⟨fun early => absurd early (hf.refuses read options), nofun⟩
  · exact ⟨fun h => ⟨q, rfl, h⟩, fun ⟨_, same, h⟩ => Except.ok.inj same ▸ h⟩

end Reading

variable {p p' : Progress} {options : Options} {arguments : List String}

/-- What is so of the progress wherever it leads to this run. -/
structure Leads (p : Progress) (options : Options) : Prop where
  quiet : .minimal ∈ p.given → options.minimal = true
  path : p.path ≠ some ""

namespace Leads

theorem back {f : Progress → Except Request Progress} (reading : Reading f) {q : Progress}
    (h : f p = .ok q) (leads : q.Leads options) : p.Leads options where
  quiet := fun given => leads.quiet (reading.keeps h given)
  path := fun path => leads.path (reading.path h path)

theorem loud (leads : p.Leads options) (loud : options.minimal = false) : .minimal ∉ p.given :=
  fun given => nomatch loud.symm.trans (leads.quiet given)

end Leads

section Quieter

variable (loud : options.minimal = false) (quieter : p.Quieter p')

include loud quieter

end Quieter

end LC3.Progress
