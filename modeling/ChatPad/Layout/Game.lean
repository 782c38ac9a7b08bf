/-!
# Touchscreen shortcuts of games

Some games have buttons on their lower screen: moves, the party, running away.  Each such game comes
with names for these buttons and a point that hits each of them, in the resolution that is typed.
-/

namespace ChatPad

/-- A name and the point of the touchscreen that it taps. -/
structure ScreenPoint where
  name : String
  x : Nat
  y : Nat
deriving DecidableEq, Repr

/-- A game with predefined shortcuts. -/
inductive Game where
  | platinum
  | heartGold
  | blackWhite
  | blackWhite2
  | xy
  | omegaRuby
  | sunMoon
  | ultraSun
deriving DecidableEq, Repr

namespace Game

/-- The points of Platinum and its siblings; those of HeartGold are the same. -/
def platinumPoints : List ScreenPoint :=
  [⟨"run", 111, 190⟩, ⟨"switch", 210, 155⟩, ⟨"bag", 4, 190⟩, ⟨"poke1", 111, 1⟩,
   ⟨"poke2", 250, 22⟩, ⟨"poke3", 3, 72⟩, ⟨"poke4", 253, 80⟩, ⟨"poke5", 1, 116⟩,
   ⟨"poke6", 250, 116⟩, ⟨"move1", 5, 23⟩, ⟨"move2", 252, 78⟩, ⟨"move3", 126, 94⟩,
   ⟨"move4", 250, 116⟩, ⟨"reuse", 38, 189⟩, ⟨"heal", 1, 46⟩, ⟨"throw", 250, 7⟩,
   ⟨"status", 0, 116⟩, ⟨"items", 253, 80⟩]

/-- The points of Black and White. -/
def blackWhitePoints : List ScreenPoint :=
  [⟨"move1", 2, 72⟩, ⟨"move2", 252, 32⟩, ⟨"move3", 2, 124⟩, ⟨"move4", 248, 90⟩,
   ⟨"reuse", 79, 190⟩, ⟨"heal", 41, 20⟩, ⟨"throw", 225, 20⟩, ⟨"status", 120, 132⟩,
   ⟨"items", 254, 90⟩, ⟨"bag", 3, 170⟩, ⟨"run", 127, 151⟩, ⟨"switch", 210, 190⟩, ⟨"poke1", 10, 5⟩,
   ⟨"poke2", 149, 10⟩, ⟨"poke3", 6, 75⟩, ⟨"poke4", 250, 75⟩, ⟨"poke5", 5, 98⟩,
   ⟨"poke6", 130, 150⟩]

/-- The points of their sequels, where only `run` has moved. -/
def blackWhite2Points : List ScreenPoint :=
  [⟨"move1", 2, 72⟩, ⟨"move2", 252, 32⟩, ⟨"move3", 2, 124⟩, ⟨"move4", 248, 90⟩,
   ⟨"reuse", 79, 190⟩, ⟨"heal", 41, 20⟩, ⟨"throw", 225, 20⟩, ⟨"status", 120, 132⟩,
   ⟨"items", 254, 90⟩, ⟨"bag", 3, 170⟩, ⟨"run", 127, 161⟩, ⟨"switch", 210, 190⟩, ⟨"poke1", 10, 5⟩,
   ⟨"poke2", 149, 10⟩, ⟨"poke3", 6, 75⟩, ⟨"poke4", 250, 75⟩, ⟨"poke5", 5, 98⟩,
   ⟨"poke6", 130, 150⟩]

/-- The points of X and Y. -/
def xyPoints : List ScreenPoint :=
  [⟨"move1", 40, 70⟩, ⟨"move2", 279, 70⟩, ⟨"move3", 40, 130⟩, ⟨"move4", 279, 130⟩,
   ⟨"reuse", 25, 210⟩, ⟨"heal", 45, 25⟩, ⟨"throw", 274, 25⟩, ⟨"status", 45, 164⟩,
   ⟨"items", 274, 164⟩, ⟨"bag", 20, 234⟩, ⟨"run", 159, 234⟩, ⟨"switch", 249, 229⟩,
   ⟨"poke1", 20, 20⟩, ⟨"poke2", 299, 30⟩, ⟨"poke3", 20, 90⟩, ⟨"poke4", 299, 100⟩,
   ⟨"poke5", 20, 160⟩, ⟨"poke6", 299, 170⟩, ⟨"mega", 159, 190⟩]

/-- The points of Omega Ruby and Alpha Sapphire. -/
def omegaRubyPoints : List ScreenPoint :=
  [⟨"move1", 40, 70⟩, ⟨"move2", 279, 70⟩, ⟨"move3", 40, 130⟩, ⟨"move4", 279, 130⟩,
   ⟨"reuse", 25, 220⟩, ⟨"heal", 45, 25⟩, ⟨"throw", 274, 40⟩, ⟨"status", 45, 149⟩,
   ⟨"items", 274, 164⟩, ⟨"bag", 20, 234⟩, ⟨"run", 159, 234⟩, ⟨"switch", 249, 229⟩,
   ⟨"poke1", 20, 20⟩, ⟨"poke2", 299, 30⟩, ⟨"poke3", 20, 90⟩, ⟨"poke4", 299, 100⟩,
   ⟨"poke5", 20, 160⟩, ⟨"poke6", 299, 170⟩, ⟨"mega", 159, 190⟩]

/-- The points of Ultra Sun and Ultra Moon; those of Sun and Moon are the same. -/
def ultraSunPoints : List ScreenPoint :=
  [⟨"move1", 315, 50⟩, ⟨"move2", 315, 100⟩, ⟨"move3", 315, 150⟩, ⟨"move4", 315, 180⟩,
   ⟨"reuse", 77, 188⟩, ⟨"heal", 80, 20⟩, ⟨"throw", 160, 20⟩, ⟨"status", 70, 140⟩,
   ⟨"items", 140, 140⟩, ⟨"bag", 40, 160⟩, ⟨"run", 130, 200⟩, ⟨"switch", 20, 80⟩,
   ⟨"poke1", 20, 30⟩, ⟨"poke2", 20, 60⟩, ⟨"poke3", 20, 90⟩, ⟨"poke4", 20, 120⟩,
   ⟨"poke5", 20, 150⟩, ⟨"poke6", 20, 180⟩]

/-- The shortcuts of a game, in the order in which they are registered. -/
def points : Game → List ScreenPoint
  | platinum | heartGold => platinumPoints
  | blackWhite => blackWhitePoints
  | blackWhite2 => blackWhite2Points
  | xy => xyPoints
  | omegaRuby => omegaRubyPoints
  | sunMoon | ultraSun => ultraSunPoints

/-- The key that stands for a game in configurations. -/
def key : Game → String
  | platinum => "dppt"
  | heartGold => "hgss"
  | blackWhite => "bw"
  | blackWhite2 => "bw2"
  | xy => "xy"
  | omegaRuby => "oras"
  | sunMoon => "sm"
  | ultraSun => "usum"

/-- All games. -/
def all : List Game :=
  [platinum, heartGold, blackWhite, blackWhite2, xy, omegaRuby, sunMoon, ultraSun]

/-- The game with this key. -/
def ofKey? (key : String) : Option Game := all.find? fun game => game.key == key

end Game

end ChatPad
