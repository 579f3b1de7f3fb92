/-! Values that are given on a command line. -/
namespace RouteFeed

/-- A value that is given. The end mark `--` inside the argument of an option erases the value: one
is given, but it is an empty list, which equals no text. -/
inductive Given (α : Type) where
  | value (a : α)
  | erased
  deriving DecidableEq

end RouteFeed
