import CanvasChart.Association
import CanvasChart.Axis.AxisSet
import CanvasChart.Axis.Basic
import CanvasChart.Axis.NiceTicks
import CanvasChart.Axis.Position
import CanvasChart.Axis.Range
import CanvasChart.Axis.Ticks
import CanvasChart.Binary64.Parts
import CanvasChart.Binary64.Scalar
import CanvasChart.Canvas.Call
import CanvasChart.Canvas.Drawing
import CanvasChart.Canvas.Font
import CanvasChart.Canvas.Marker
import CanvasChart.Canvas.Path
import CanvasChart.Canvas.Recorder
import CanvasChart.Canvas.TextStyle
import CanvasChart.Chart.AxisResolution
import CanvasChart.Chart.Basic
import CanvasChart.Chart.Definition
import CanvasChart.Chart.Draw
import CanvasChart.Chart.Element
import CanvasChart.Chart.Layout
import CanvasChart.Decimal.Digits
import CanvasChart.Decimal.Fixed
import CanvasChart.Decimal.Numeral
import CanvasChart.Decimal.Shortest
import CanvasChart.Error
import CanvasChart.Geometry.Frame
import CanvasChart.Geometry.Matrix
import CanvasChart.Geometry.Rect
import CanvasChart.Json.Codec
import CanvasChart.Json.Number
import CanvasChart.Json.Reader
import CanvasChart.Json.Record
import CanvasChart.Json.Token
import CanvasChart.Json.Value
import CanvasChart.Json.Writer
import CanvasChart.Label
import CanvasChart.Marks.Bar
import CanvasChart.Marks.Context
import CanvasChart.Marks.Group
import CanvasChart.Marks.Line
import CanvasChart.Marks.Scatter
import CanvasChart.Options.Axis
import CanvasChart.Options.ByName
import CanvasChart.Options.Chart
import CanvasChart.Options.FlatKey
import CanvasChart.Options.Legend
import CanvasChart.Options.Plot
import CanvasChart.Palette
import CanvasChart.Plot.Basic
import CanvasChart.Plot.Coloring
import CanvasChart.Plot.Extent
import CanvasChart.Plot.Group
import CanvasChart.Plot.Stack
import CanvasChart.Scalar
import CanvasChart.Section.Basic
import CanvasChart.Section.Legend
import CanvasChart.Section.Scene
import CanvasChart.Section.Ticks
import CanvasChart.Section.Title
import CanvasChart.Series.Basic
import CanvasChart.Series.Key
import CanvasChart.Series.Style
import CanvasChart.Side
import CanvasChart.Text.Blank
import CanvasChart.Text.LowerCase
import CanvasChart.Proofs.Canvas.StateFrame
import CanvasChart.Proofs.Chart.DrawingFrame
import CanvasChart.Proofs.Axis.Members
import CanvasChart.Proofs.Axis.Gathering
import CanvasChart.Proofs.Chart.AxisFaults
import CanvasChart.Proofs.Chart.AxisResolution
import CanvasChart.Proofs.Chart.AxisPresence
import CanvasChart.Proofs.Chart.DrawOutcome
import CanvasChart.Proofs.Exact.Scalar
import CanvasChart.Proofs.Chart.TickLevels
import CanvasChart.Proofs.Exact.Real
import CanvasChart.Proofs.Canvas.Equivariance
import CanvasChart.Proofs.Canvas.Effect
import CanvasChart.Proofs.Canvas.PathMarks
import CanvasChart.Proofs.Canvas.ScopeRuns
import CanvasChart.Proofs.Marks.PlotMarks
import CanvasChart.Proofs.Chart.AxisMembers
import CanvasChart.Proofs.Chart.DrawnPlots
import CanvasChart.Proofs.Marks.SeriesMarks
import CanvasChart.Proofs.Chart.LegendColors
import CanvasChart.Proofs.Chart.SettledDrawing
import CanvasChart.Proofs.Axis.Transport
import CanvasChart.Proofs.Chart.Redrawing
import CanvasChart.Proofs.Chart.HiddenPlots
import CanvasChart.Proofs.Axis.Coverage
import CanvasChart.Proofs.Plot.Extents
import CanvasChart.Proofs.Geometry.PlotArea
import CanvasChart.Proofs.Chart.PlotContainment
import CanvasChart.Proofs.Chart.LayoutBounds
import CanvasChart.Proofs.Chart.LayoutAxes
import CanvasChart.Proofs.Geometry.Stacks
import CanvasChart.Proofs.Chart.SectionBands
import CanvasChart.Proofs.Plot.Recoloring
import CanvasChart.Proofs.Plot.NewColors
import CanvasChart.Proofs.Palette.Assignment
import CanvasChart.Proofs.Chart.Runs
import CanvasChart.Proofs.Chart.RunColors
import CanvasChart.Proofs.Chart.SharedColors
import CanvasChart.Proofs.Chart.Registry
import CanvasChart.Proofs.Binary64.Finite
import CanvasChart.Proofs.Json.Restoring
import CanvasChart.Proofs.Json.Fields
import CanvasChart.Proofs.Json.Records
import CanvasChart.Proofs.Options.Codecs
import CanvasChart.Proofs.Options.Sections
import CanvasChart.Proofs.Options.Types
import CanvasChart.Proofs.Options.ByName
import CanvasChart.Proofs.Options.Access
import CanvasChart.Proofs.Options.Nesting
import CanvasChart.Proofs.Options.Restoring
import CanvasChart.Proofs.Chart.DefinitionRoundTrip
import CanvasChart.Proofs.Plot.Columns
import CanvasChart.Proofs.Binary64.Order
import CanvasChart.Proofs.Binary64.Packing
import CanvasChart.Proofs.Binary64.Numbers
import CanvasChart.Proofs.Plot.Bounds
import CanvasChart.Proofs.Axis.LinearRange
import CanvasChart.Proofs.Decimal.Reading
import CanvasChart.Proofs.Decimal.Shortest
import CanvasChart.Proofs.Plot.KeyTotals
import CanvasChart.Proofs.Exact.Powers
import CanvasChart.Proofs.Exact.Lengths
import CanvasChart.Proofs.Axis.TickChoice
import CanvasChart.Proofs.Axis.EvenTicks
import CanvasChart.Proofs.Axis.PowerRange
import CanvasChart.Proofs.Axis.Interleaving
import CanvasChart.Proofs.Axis.OwnRange
import CanvasChart.Proofs.Axis.WideRange
import CanvasChart.Proofs.Binary64.Nearest
import CanvasChart.Proofs.Binary64.Values
import CanvasChart.Proofs.Binary64.Rounding
import CanvasChart.Proofs.Binary64.Arithmetic
import CanvasChart.Proofs.Binary64.Whole
import CanvasChart.Proofs.Binary64.PowersOfTen
import CanvasChart.Proofs.Binary64.Infinite
import CanvasChart.Proofs.Decimal.RoundTrip
import CanvasChart.Proofs.Label.Rounded
import CanvasChart.Proofs.Label.WholeNumbers
import CanvasChart.Proofs.Label.Suffixes
import CanvasChart.Proofs.Axis.MachineRange
import CanvasChart.Proofs.Axis.MachineSpacings
import CanvasChart.Proofs.Axis.FiniteTicks
import CanvasChart.Proofs.Axis.Cells
import CanvasChart.Proofs.Marks.BarColumns
import CanvasChart.Proofs.Chart.CategoryCells
import CanvasChart.Proofs.Section.TickParts
import CanvasChart.Proofs.Section.TickOffsets
import CanvasChart.Proofs.Section.TickRoom
import CanvasChart.Proofs.Section.TickLabels
import CanvasChart.Proofs.Chart.AxisLabels
import CanvasChart.Proofs.Marks.SlotColumns
import CanvasChart.Proofs.Section.LegendBlocks
import CanvasChart.Proofs.Section.LegendRoom
