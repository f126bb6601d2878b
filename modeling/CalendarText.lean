import CalendarText.Rendering
import CalendarText.Section.Unchecked
import CalendarText.Options.Environment
import CalendarText.Proofs.Walk
import CalendarText.Proofs.References
import CalendarText.Proofs.Inlining
import CalendarText.Proofs.Concatenation
import CalendarText.Proofs.Causes
import CalendarText.Proofs.Passing
import CalendarText.Proofs.Components
import CalendarText.Proofs.Digits
import CalendarText.Proofs.IsoFormat
import CalendarText.Proofs.Ordinals
import CalendarText.Proofs.TextOrder
import CalendarText.Proofs.Dependence
import CalendarText.Proofs.DayCount
import CalendarText.Proofs.Filling
import CalendarText.Proofs.CurrentNames
import CalendarText.Proofs.Descent
import CalendarText.Proofs.SectionGrammar
import CalendarText.Proofs.Respelling
import CalendarText.Proofs.Merging
import CalendarText.Proofs.RealDates
import CalendarText.Proofs.OffsetText
import CalendarText.Proofs.Weekdays
import CalendarText.Proofs.YearDays
import CalendarText.Proofs.Conversion
import CalendarText.Proofs.Verbatim
import CalendarText.Proofs.Expressions
import CalendarText.Proofs.Acceptance
import CalendarText.Proofs.CivilOffsets
import CalendarText.Proofs.FractionText
import CalendarText.Proofs.HourOffsets
import CalendarText.Proofs.Columns
import CalendarText.Proofs.Combining
import CalendarText.Proofs.TwelveHours
import CalendarText.Proofs.ReadingBack
