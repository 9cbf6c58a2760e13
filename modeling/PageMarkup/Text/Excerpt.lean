import PageMarkup.Text.Basic

/-! Excerpts quote a source around a place, in characters that any terminal can show. -/

namespace PageMarkup.Text

/-- Where a cut at `stop` falls: a negative position counts from the end of the text. -/
def cutAt (text : Text) (stop : Int) : Nat :=
  if stop < 0 then (stop + text.length).toNat else stop.toNat

/-- The characters at most `radius` before and fewer than `radius` after `offset`, those outside
ASCII shown as question marks. The excerpt ends at `offset + radius` or at the end of the text,
whichever comes first. -/
def excerpt (source : Text) (offset radius : Int) : Text :=
  let start := (max 0 (offset - radius)).toNat
  let stop := cutAt source (min (offset + radius) source.length)
  ((source.take stop).drop start).map fun c => if c.toNat < 0x80 then c else '?'

end PageMarkup.Text
