import PageMarkup.Text.Basic

/-! What a site decides about how its pages are compiled. -/

namespace PageMarkup

/-- The settings of a compilation. -/
structure Settings where
  /-- Backticks delimit inline code from the start. -/
  backticks : Bool := false
  /-- A tag that is still open at the end is a fault. -/
  closeTags : Bool := false
  /-- The language of listings that name none. -/
  language : Text := "none".toList
  /-- How many spaces a tab stands for in listings; each language has its own if not given. -/
  tabSize? : Option Int := none
  /-- How much of the source a report shows on each side of the place. -/
  contextRadius : Int := 30
  /-- The largest size of a source file, in bytes. -/
  maxFileSize : Int := 10485760
deriving DecidableEq

end PageMarkup
