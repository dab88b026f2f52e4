import RecordSearch.Relation
import RecordSearch.Store.Basic

/-!
# A fantasy league

Users own teams, teams play in leagues, and links say in which seasons a team played. With a small
store of such records.
-/

namespace RecordSearch.FantasyLeague

def named (name table : String) : Entity :=
  { name, table
    fields := [
      ⟨"id", .required .uuid⟩,
      ⟨"name", .required .text⟩,
      ⟨"created_at", .required .timestamp⟩] }

def user : Entity := named "user" "users"

def league : Entity := named "league" "fantasy_leagues"

def season : Entity := named "season" "seasons"

def team : Entity :=
  { name := "team"
    table := "fantasy_teams"
    fields := [
      ⟨"id", .required .uuid⟩,
      ⟨"name", .required .text⟩,
      ⟨"owner_id", .optional .uuid⟩,
      ⟨"fantasy_league_id", .optional .uuid⟩,
      ⟨"created_at", .required .timestamp⟩,
      ⟨"owner", .link "user"⟩,
      ⟨"fantasy_league", .link "league"⟩] }

def seasonLink : Entity :=
  { name := "season link"
    table := "fantasy_team_season_links"
    fields := [
      ⟨"id", .required .uuid⟩,
      ⟨"fantasy_team_id", .optional .uuid⟩,
      ⟨"season_id", .optional .uuid⟩,
      ⟨"created_at", .required .timestamp⟩,
      ⟨"fantasy_team", .link "team"⟩,
      ⟨"season", .link "season"⟩] }

def catalogue : Catalogue := [user, league, season, team, seasonLink]

def users : Source := .mk user []

def leagues : Source := .mk league []

def seasons : Source := .mk season []

def teams : Source :=
  .mk team [(⟨"owner", "owner_id"⟩, users), (⟨"fantasy_league", "fantasy_league_id"⟩, leagues)]

def seasonLinks : Source :=
  .mk seasonLink [(⟨"fantasy_team", "fantasy_team_id"⟩, teams), (⟨"season", "season_id"⟩, seasons)]

/-- Noon of a day of September 2024. -/
def noon (day : Nat) : Json :=
  .string (Calendar.Instant.display ⟨⟨2024, 9, day⟩, 43200, 0⟩)

def idText (n : Nat) : Json :=
  .string (Uuid.mk n).text

def namedRow (n : Nat) (name : String) : Json :=
  .ofMembers [("id", idText n), ("name", .string name), ("created_at", noon 1)]

def teamRow (n : Nat) (name : String) (owner league : Nat) : Json :=
  .ofMembers [("id", idText n), ("name", .string name), ("owner_id", idText owner),
    ("fantasy_league_id", idText league), ("created_at", noon 2)]

def seasonLinkRow (n : Nat) (team : Option Nat) (season day : Nat) : Json :=
  .ofMembers [("id", idText n), ("fantasy_team_id", (team.map idText).getD .null),
    ("season_id", idText season), ("created_at", noon day)]

/-- Two users, a league, two teams, a season and three links. -/
def sampleStore : Store :=
  { tables := [
      ("users", [namedRow 1 "Avery", namedRow 2 "Jordan"]),
      ("fantasy_leagues", [namedRow 10 "Sunday Funday"]),
      ("fantasy_teams", [teamRow 100 "Gridiron Gang" 1 10, teamRow 101 "Blitz" 2 10]),
      ("seasons", [namedRow 200 "2024"]),
      ("fantasy_team_season_links", [
        seasonLinkRow 300 (some 100) 200 3,
        seasonLinkRow 301 (some 100) 200 4,
        seasonLinkRow 302 none 200 5])]
    defaults := .standard }

end RecordSearch.FantasyLeague
