import StoryDirector.Action
import StoryDirector.Action.Keyword
/-!
# StoryDirector.Action.Lexicon

Classifying actions. **A lexicon is an ordered list of kinds with their keywords, and the first kind
that has a keyword in the text wins.** What the client says explicitly comes first: the chosen kind,
then a label among the extras, and only then the words of the text (`Lexicon.classify`).
-/

namespace StoryDirector

/-- Kinds with their keywords, in order of precedence. -/
structure Lexicon where
  /-- The rows of the lexicon. -/
  rows : List (ActionKind × List String)

namespace Lexicon

/-- The extras that may carry a label. -/
def labelKeys : List String := ["action_type", "actionType"]

/-- The standard lexicon. Words whose ending changes are given by their stem. -/
def standard : Lexicon where
  rows :=
    [(.systemCommand,
      ["/save", "/help", "/status", "save game", "load game", "settings", "セーブ", "ロード",
       "ヘルプ", "ステータス"]),
     (.combat,
      ["attack", "fight", "strik", "slash", "shoot", "battle", "攻撃", "戦う", "戦闘", "斬", "倒す"]),
     (.skillUse,
      ["cast", "spell", "skill", "ability", "魔法", "スキル", "唱え", "詠唱"]),
     (.itemUse,
      ["use", "using", "drink", "potion", "equip", "eat", "使う", "飲む", "装備", "アイテム"]),
     (.dialogue,
      ["talk", "speak", "ask", "say", "greet", "話", "聞く", "尋ね", "挨拶"]),
     (.quest,
      ["quest", "mission", "bounty", "クエスト", "依頼", "任務"]),
     (.exploration,
      ["explor", "search", "investigat", "examin", "look around", "探索", "調べ", "探す", "調査"]),
     (.movement,
      ["go", "went", "walk", "travel", "move", "moving", "head", "enter", "移動", "行く", "向か",
       "進む", "入る"])]

/-- The kind of the first row with a keyword in the text. -/
def classifyText (lexicon : Lexicon) (text : String) : ActionKind :=
  match lexicon.rows.find? fun row => Keyword.anyOccurs text row.2 with
  | some row => row.1
  | none => .unknown

/-- The kind that the extras name, if one of them is a label. -/
def labelledKind? (action : PlayerAction) : Option ActionKind :=
  labelKeys.findSome? fun key => (action.metadataText? key).bind ActionKind.ofLabel?

/-- The kind of an action. -/
def classify (lexicon : Lexicon) (action : PlayerAction) : ActionKind :=
  match action.kind with
  | some kind => kind
  | none =>
    match labelledKind? action with
    | some kind => kind
    | none => lexicon.classifyText action.text

end Lexicon

/-- Words that mark a quest action as the end of the quest. -/
def questCompletionWords : List String :=
  ["complete", "completed", "finish", "turn in", "report", "完了", "達成", "報告", "クリア"]

/-- Words that mark a destination as a new one. -/
def noveltyWords : List String :=
  ["new", "unknown", "unexplored", "strange", "新しい", "未知", "未踏", "初めて"]

end StoryDirector
