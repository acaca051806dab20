/-!
The emoji names of the console: each `:name:` code that the console writes as an
emoji, with the emoji it stands for. Names are in lower case; a code is looked up
by its lowered name.

```
:package:   ⟶   📦
:thumbs_up: ⟶   👍
```
-/

namespace PluginPack.Console

/-- The named emoji, grouped by the first character of their names: in each group
one per line, the name, a tab, and the emoji. -/
def emojiTable : List String := [
  "1st_place_medal\t🥇\n100\t💯\n1234\t🔢",
  "2nd_place_medal\t🥈",
  "3rd_place_medal\t🥉",
  "ab_button_(blood_type)\t🆎\natm_sign\t🏧\na_button_(blood_type)\t🅰\nafghanistan\t🇦🇫\nalbania\t🇦🇱\nalgeria\t🇩🇿\namerican_samoa\t🇦🇸\nandorra\t🇦🇩\nangola\t🇦🇴\nanguilla\t🇦🇮\nantarctica\t🇦🇶\nantigua_&_barbuda\t🇦🇬\naquarius\t♒\nargentina\t🇦🇷\naries\t♈\narmenia\t🇦🇲\naruba\t🇦🇼\nascension_island\t🇦🇨\naustralia\t🇦🇺\naustria\t🇦🇹\nazerbaijan\t🇦🇿\nabacus\t🧮\nadhesive_bandage\t🩹\nadmission_tickets\t🎟\nadult\t🧑\nadult_dark_skin_tone\t🧑🏿\nadult_light_skin_tone\t🧑🏻\nadult_medium-dark_skin_tone\t🧑🏾\nadult_medium-light_skin_tone\t🧑🏼\nadult_medium_skin_tone\t🧑🏽\naerial_tramway\t🚡\nairplane\t✈\nairplane_arrival\t🛬\nairplane_departure\t🛫\nalarm_clock\t⏰\nalembic\t⚗\nalien\t👽\nalien_monster\t👾\nambulance\t🚑\namerican_football\t🏈\namphora\t🏺\nanchor\t⚓\nanger_symbol\t💢\nangry_face\t😠\nangry_face_with_horns\t👿\nanguished_face\t😧\nant\t🐜\nantenna_bars\t📶\nanxious_face_with_sweat\t😰\narticulated_lorry\t🚛\nartist_palette\t🎨\nastonished_face\t😲\natom_symbol\t⚛\nauto_rickshaw\t🛺\nautomobile\t🚗\navocado\t🥑\naxe\t🪓\nairplane_arriving\t🛬\nanger\t💢\nangry\t😠\nanguished\t😧\narrows_counterclockwise\t🔄\narrow_heading_down\t⤵\narrow_heading_up\t⤴\nart\t🎨\nastonished\t😲\nathletic_shoe\t👟\natm\t🏧\nangel\t👼\narrow_double_down\t⏬\narrow_backward\t◀\narrow_forward\t▶\narrow_right\t➡\narrow_double_up\t⏫\naccept\t🉑\narrows_clockwise\t🔃\narrow_down_small\t🔽\narrow_down\t⬇\nabc\t🔤\nabcd\t🔡\narrow_left\t⬅\nab\t🆎\na\t🅰\narrow_upper_right\t↗\narrow_upper_left\t↖\napple\t🍎\narrow_right_hook\t↪\narrow_lower_right\t↘\narrow_lower_left\t↙\narrow_up_small\t🔼\narrow_up_down\t↕\narrow_up\t⬆",
  "back_arrow\t🔙\nb_button_(blood_type)\t🅱\nbahamas\t🇧🇸\nbahrain\t🇧🇭\nbangladesh\t🇧🇩\nbarbados\t🇧🇧\nbelarus\t🇧🇾\nbelgium\t🇧🇪\nbelize\t🇧🇿\nbenin\t🇧🇯\nbermuda\t🇧🇲\nbhutan\t🇧🇹\nbolivia\t🇧🇴\nbosnia_&_herzegovina\t🇧🇦\nbotswana\t🇧🇼\nbouvet_island\t🇧🇻\nbrazil\t🇧🇷\nbritish_indian_ocean_territory\t🇮🇴\nbritish_virgin_islands\t🇻🇬\nbrunei\t🇧🇳\nbulgaria\t🇧🇬\nburkina_faso\t🇧🇫\nburundi\t🇧🇮\nbaby\t👶\nbaby_angel\t👼\nbaby_angel_dark_skin_tone\t👼🏿\nbaby_angel_light_skin_tone\t👼🏻\nbaby_angel_medium-dark_skin_tone\t👼🏾\nbaby_angel_medium-light_skin_tone\t👼🏼\nbaby_angel_medium_skin_tone\t👼🏽\nbaby_bottle\t🍼\nbaby_chick\t🐤\nbaby_dark_skin_tone\t👶🏿\nbaby_light_skin_tone\t👶🏻\nbaby_medium-dark_skin_tone\t👶🏾\nbaby_medium-light_skin_tone\t👶🏼\nbaby_medium_skin_tone\t👶🏽\nbaby_symbol\t🚼\nbackhand_index_pointing_down\t👇\nbackhand_index_pointing_down_dark_skin_tone\t👇🏿\nbackhand_index_pointing_down_light_skin_tone\t👇🏻\nbackhand_index_pointing_down_medium-dark_skin_tone\t👇🏾\nbackhand_index_pointing_down_medium-light_skin_tone\t👇🏼\nbackhand_index_pointing_down_medium_skin_tone\t👇🏽\nbackhand_index_pointing_left\t👈\nbackhand_index_pointing_left_dark_skin_tone\t👈🏿\nbackhand_index_pointing_left_light_skin_tone\t👈🏻\nbackhand_index_pointing_left_medium-dark_skin_tone\t👈🏾\nbackhand_index_pointing_left_medium-light_skin_tone\t👈🏼\nbackhand_index_pointing_left_medium_skin_tone\t👈🏽\nbackhand_index_pointing_right\t👉\nbackhand_index_pointing_right_dark_skin_tone\t👉🏿\nbackhand_index_pointing_right_light_skin_tone\t👉🏻\nbackhand_index_pointing_right_medium-dark_skin_tone\t👉🏾\nbackhand_index_pointing_right_medium-light_skin_tone\t👉🏼\nbackhand_index_pointing_right_medium_skin_tone\t👉🏽\nbackhand_index_pointing_up\t👆\nbackhand_index_pointing_up_dark_skin_tone\t👆🏿\nbackhand_index_pointing_up_light_skin_tone\t👆🏻\nbackhand_index_pointing_up_medium-dark_skin_tone\t👆🏾\nbackhand_index_pointing_up_medium-light_skin_tone\t👆🏼\nbackhand_index_pointing_up_medium_skin_tone\t👆🏽\nbacon\t🥓\nbadger\t🦡\nbadminton\t🏸\nbagel\t🥯\nbaggage_claim\t🛄\nbaguette_bread\t🥖\nbalance_scale\t⚖\nbald\t🦲\nbald_man\t👨\u200D🦲\nbald_woman\t👩\u200D🦲\nballet_shoes\t🩰\nballoon\t🎈\nballot_box_with_ballot\t🗳\nballot_box_with_check\t☑\nbanana\t🍌\nbanjo\t🪕\nbank\t🏦\nbar_chart\t📊\nbarber_pole\t💈\nbaseball\t⚾\nbasket\t🧺\nbasketball\t🏀\nbat\t🦇\nbathtub\t🛁\nbattery\t🔋\nbeach_with_umbrella\t🏖\nbeaming_face_with_smiling_eyes\t😁\nbear_face\t🐻\nbearded_person\t🧔\nbearded_person_dark_skin_tone\t🧔🏿\nbearded_person_light_skin_tone\t🧔🏻\nbearded_person_medium-dark_skin_tone\t🧔🏾\nbearded_person_medium-light_skin_tone\t🧔🏼\nbearded_person_medium_skin_tone\t🧔🏽\nbeating_heart\t💓\nbed\t🛏\nbeer_mug\t🍺\nbell\t🔔\nbell_with_slash\t🔕\nbellhop_bell\t🛎\nbento_box\t🍱\nbeverage_box\t🧃\nbicycle\t🚲\nbikini\t👙\nbilled_cap\t🧢\nbiohazard\t☣\nbird\t🐦\nbirthday_cake\t🎂\nblack_circle\t⚫\nblack_flag\t🏴\nblack_heart\t🖤\nblack_large_square\t⬛\nblack_medium-small_square\t◾\nblack_medium_square\t◼\nblack_nib\t✒\nblack_small_square\t▪\nblack_square_button\t🔲\nblond-haired_man\t👱\u200D♂\uFE0F\nblond-haired_man_dark_skin_tone\t👱🏿\u200D♂\uFE0F\nblond-haired_man_light_skin_tone\t👱🏻\u200D♂\uFE0F\nblond-haired_man_medium-dark_skin_tone\t👱🏾\u200D♂\uFE0F\nblond-haired_man_medium-light_skin_tone\t👱🏼\u200D♂\uFE0F\nblond-haired_man_medium_skin_tone\t👱🏽\u200D♂\uFE0F\nblond-haired_person\t👱\nblond-haired_person_dark_skin_tone\t👱🏿\nblond-haired_person_light_skin_tone\t👱🏻\nblond-haired_person_medium-dark_skin_tone\t👱🏾\nblond-haired_person_medium-light_skin_tone\t👱🏼\nblond-haired_person_medium_skin_tone\t👱🏽\nblond-haired_woman\t👱\u200D♀\uFE0F\nblond-haired_woman_dark_skin_tone\t👱🏿\u200D♀\uFE0F\nblond-haired_woman_light_skin_tone\t👱🏻\u200D♀\uFE0F\nblond-haired_woman_medium-dark_skin_tone\t👱🏾\u200D♀\uFE0F\nblond-haired_woman_medium-light_skin_tone\t👱🏼\u200D♀\uFE0F\nblond-haired_woman_medium_skin_tone\t👱🏽\u200D♀\uFE0F\nblossom\t🌼\nblowfish\t🐡\nblue_book\t📘\nblue_circle\t🔵\nblue_heart\t💙\nblue_square\t🟦\nboar\t🐗\nbomb\t💣\nbone\t🦴\nbookmark\t🔖\nbookmark_tabs\t📑\nbooks\t📚\nbottle_with_popping_cork\t🍾\nbouquet\t💐\nbow_and_arrow\t🏹\nbowl_with_spoon\t🥣\nbowling\t🎳\nboxing_glove\t🥊\nboy\t👦\nboy_dark_skin_tone\t👦🏿\nboy_light_skin_tone\t👦🏻\nboy_medium-dark_skin_tone\t👦🏾\nboy_medium-light_skin_tone\t👦🏼\nboy_medium_skin_tone\t👦🏽\nbrain\t🧠\nbread\t🍞\nbreast-feeding\t🤱\nbreast-feeding_dark_skin_tone\t🤱🏿\nbreast-feeding_light_skin_tone\t🤱🏻\nbreast-feeding_medium-dark_skin_tone\t🤱🏾\nbreast-feeding_medium-light_skin_tone\t🤱🏼\nbreast-feeding_medium_skin_tone\t🤱🏽\nbrick\t🧱\nbride_with_veil\t👰\nbride_with_veil_dark_skin_tone\t👰🏿\nbride_with_veil_light_skin_tone\t👰🏻\nbride_with_veil_medium-dark_skin_tone\t👰🏾\nbride_with_veil_medium-light_skin_tone\t👰🏼\nbride_with_veil_medium_skin_tone\t👰🏽\nbridge_at_night\t🌉\nbriefcase\t💼\nbriefs\t🩲\nbright_button\t🔆\nbroccoli\t🥦\nbroken_heart\t💔\nbroom\t🧹\nbrown_circle\t🟤\nbrown_heart\t🤎\nbrown_square\t🟫\nbug\t🐛\nbuilding_construction\t🏗\nbullet_train\t🚅\nburrito\t🌯\nbus\t🚌\nbus_stop\t🚏\nbust_in_silhouette\t👤\nbusts_in_silhouette\t👥\nbutter\t🧈\nbutterfly\t🦋\nback\t🔙\nbadminton_racquet_and_shuttlecock\t🏸\nbarber\t💈\nbath\t🛀\nbear\t🐻\nbeer\t🍺\nbento\t🍱\nbike\t🚲\nbicyclist\t🚴\nbiohazard_sign\t☣\nbirthday\t🎂\nblack_circle_for_record\t⏺\nblack_left__pointing_double_triangle_with_vertical_bar\t⏮\nblack_medium_small_square\t◾\nblack_right__pointing_double_triangle_with_vertical_bar\t⏭\nblack_right__pointing_triangle_with_double_vertical_bar\t⏯\nblack_square_for_stop\t⏹\nbusstop\t🚏\nbeers\t🍻\nboom\t💥\nbangbang\t‼\nbulb\t💡\nbullettrain_side\t🚄\nbullettrain_front\t🚅\nbee\t🐝\nbeginner\t🔰\nbeetle\t🐞\nb\t🅱\nbook\t📖\nbow\t🙇\nbamboo\t🎍\nblack_joker\t🃏\nblue_car\t🚙\nboat\t⛵\nblush\t😊\nboot\t👢",
  "cl_button\t🆑\ncool_button\t🆒\ncambodia\t🇰🇭\ncameroon\t🇨🇲\ncanada\t🇨🇦\ncanary_islands\t🇮🇨\ncancer\t♋\ncape_verde\t🇨🇻\ncapricorn\t♑\ncaribbean_netherlands\t🇧🇶\ncayman_islands\t🇰🇾\ncentral_african_republic\t🇨🇫\nceuta_&_melilla\t🇪🇦\nchad\t🇹🇩\nchile\t🇨🇱\nchina\t🇨🇳\nchristmas_island\t🇨🇽\nchristmas_tree\t🎄\nclipperton_island\t🇨🇵\ncocos_(keeling)_islands\t🇨🇨\ncolombia\t🇨🇴\ncomoros\t🇰🇲\ncongo_-_brazzaville\t🇨🇬\ncongo_-_kinshasa\t🇨🇩\ncook_islands\t🇨🇰\ncosta_rica\t🇨🇷\ncroatia\t🇭🇷\ncuba\t🇨🇺\ncuraçao\t🇨🇼\ncyprus\t🇨🇾\nczechia\t🇨🇿\ncôte_d’ivoire\t🇨🇮\ncactus\t🌵\ncalendar\t📆\ncall_me_hand\t🤙\ncall_me_hand_dark_skin_tone\t🤙🏿\ncall_me_hand_light_skin_tone\t🤙🏻\ncall_me_hand_medium-dark_skin_tone\t🤙🏾\ncall_me_hand_medium-light_skin_tone\t🤙🏼\ncall_me_hand_medium_skin_tone\t🤙🏽\ncamel\t🐫\ncamera\t📷\ncamera_with_flash\t📸\ncamping\t🏕\ncandle\t🕯\ncandy\t🍬\ncanned_food\t🥫\ncanoe\t🛶\ncard_file_box\t🗃\ncard_index\t📇\ncard_index_dividers\t🗂\ncarousel_horse\t🎠\ncarp_streamer\t🎏\ncarrot\t🥕\ncastle\t🏰\ncat\t🐱\ncat_face\t🐱\ncat_face_with_tears_of_joy\t😹\ncat_face_with_wry_smile\t😼\nchains\t⛓\nchair\t🪑\nchart_decreasing\t📉\nchart_increasing\t📈\nchart_increasing_with_yen\t💹\ncheese_wedge\t🧀\nchequered_flag\t🏁\ncherries\t🍒\ncherry_blossom\t🌸\nchess_pawn\t♟\nchestnut\t🌰\nchicken\t🐔\nchild\t🧒\nchild_dark_skin_tone\t🧒🏿\nchild_light_skin_tone\t🧒🏻\nchild_medium-dark_skin_tone\t🧒🏾\nchild_medium-light_skin_tone\t🧒🏼\nchild_medium_skin_tone\t🧒🏽\nchildren_crossing\t🚸\nchipmunk\t🐿\nchocolate_bar\t🍫\nchopsticks\t🥢\nchurch\t⛪\ncigarette\t🚬\ncinema\t🎦\ncircled_m\tⓂ\ncircus_tent\t🎪\ncityscape\t🏙\ncityscape_at_dusk\t🌆\nclamp\t🗜\nclapper_board\t🎬\nclapping_hands\t👏\nclapping_hands_dark_skin_tone\t👏🏿\nclapping_hands_light_skin_tone\t👏🏻\nclapping_hands_medium-dark_skin_tone\t👏🏾\nclapping_hands_medium-light_skin_tone\t👏🏼\nclapping_hands_medium_skin_tone\t👏🏽\nclassical_building\t🏛\nclinking_beer_mugs\t🍻\nclinking_glasses\t🥂\nclipboard\t📋\nclockwise_vertical_arrows\t🔃\nclosed_book\t📕\nclosed_mailbox_with_lowered_flag\t📪\nclosed_mailbox_with_raised_flag\t📫\nclosed_umbrella\t🌂\ncloud\t☁\ncloud_with_lightning\t🌩\ncloud_with_lightning_and_rain\t⛈\ncloud_with_rain\t🌧\ncloud_with_snow\t🌨\nclown_face\t🤡\nclub_suit\t♣\nclutch_bag\t👝\ncoat\t🧥\ncocktail_glass\t🍸\ncoconut\t🥥\ncoffin\t⚰\ncold_face\t🥶\ncollision\t💥\ncomet\t☄\ncompass\t🧭\ncomputer_disk\t💽\ncomputer_mouse\t🖱\nconfetti_ball\t🎊\nconfounded_face\t😖\nconfused_face\t😕\nconstruction\t🚧\nconstruction_worker\t👷\nconstruction_worker_dark_skin_tone\t👷🏿\nconstruction_worker_light_skin_tone\t👷🏻\nconstruction_worker_medium-dark_skin_tone\t👷🏾\nconstruction_worker_medium-light_skin_tone\t👷🏼\nconstruction_worker_medium_skin_tone\t👷🏽\ncontrol_knobs\t🎛\nconvenience_store\t🏪\ncooked_rice\t🍚\ncookie\t🍪\ncooking\t🍳\ncopyright\t©\ncouch_and_lamp\t🛋\ncounterclockwise_arrows_button\t🔄\ncouple_with_heart\t💑\ncouple_with_heart_man_man\t👨\u200D❤\uFE0F\u200D👨\ncouple_with_heart_woman_man\t👩\u200D❤\uFE0F\u200D👨\ncouple_with_heart_woman_woman\t👩\u200D❤\uFE0F\u200D👩\ncow\t🐮\ncow_face\t🐮\ncowboy_hat_face\t🤠\ncrab\t🦀\ncrayon\t🖍\ncredit_card\t💳\ncrescent_moon\t🌙\ncricket\t🦗\ncricket_game\t🏏\ncrocodile\t🐊\ncroissant\t🥐\ncross_mark\t❌\ncross_mark_button\t❎\ncrossed_fingers\t🤞\ncrossed_fingers_dark_skin_tone\t🤞🏿\ncrossed_fingers_light_skin_tone\t🤞🏻\ncrossed_fingers_medium-dark_skin_tone\t🤞🏾\ncrossed_fingers_medium-light_skin_tone\t🤞🏼\ncrossed_fingers_medium_skin_tone\t🤞🏽\ncrossed_flags\t🎌\ncrossed_swords\t⚔\ncrown\t👑\ncrying_cat_face\t😿\ncrying_face\t😢\ncrystal_ball\t🔮\ncucumber\t🥒\ncupcake\t🧁\ncup_with_straw\t🥤\ncurling_stone\t🥌\ncurly_hair\t🦱\ncurly-haired_man\t👨\u200D🦱\ncurly-haired_woman\t👩\u200D🦱\ncurly_loop\t➰\ncurrency_exchange\t💱\ncurry_rice\t🍛\ncustard\t🍮\ncustoms\t🛃\ncut_of_meat\t🥩\ncyclone\t🌀\ncar\t🚗\nclubs\t♣\ncat2\t🐈\nchart_with_downwards_trend\t📉\nchart_with_upwards_trend\t📈\nchart\t💹\ncheckered_flag\t🏁\ncongratulations\t㊗\ncity_sunset\t🌆\nclapper\t🎬\nclap\t👏\nclock830\t🕣\nclock8\t🕗\nclock1130\t🕦\nclock11\t🕚\nclock530\t🕠\nclock5\t🕔\nclock430\t🕟\nclock4\t🕓\nclock930\t🕤\nclock9\t🕘\nclock130\t🕜\nclock1\t🕐\nclock730\t🕢\nclock7\t🕖\nclock630\t🕡\nclock6\t🕕\nclock1030\t🕥\nclock10\t🕙\nclock330\t🕞\nclock3\t🕒\nclock1230\t🕧\nclock12\t🕛\nclock230\t🕝\nclock2\t🕑\nclosed_lock_with_key\t🔐\ncloud_with_tornado\t🌪\ncocktail\t🍸\ncompression\t🗜\nconfounded\t😖\nconfused\t😕\ncow2\t🐄\ncricket_bat_and_ball\t🏏\ncry\t😢\ncurry\t🍛\ncorn\t🌽\ncold_sweat\t😰\ncupid\t💘\ncoffee\t☕\ncapital_abcd\t🔠\ncouplekiss\t💏\ncouple\t👫\ncalling\t📲\ncd\t💿\ncomputer\t💻\ncop\t👮\ncake\t🍰\ncl\t🆑\ncool\t🆒\ncity_sunrise\t🌇",
  "denmark\t🇩🇰\ndiego_garcia\t🇩🇬\ndjibouti\t🇩🇯\ndominica\t🇩🇲\ndominican_republic\t🇩🇴\ndagger\t🗡\ndango\t🍡\ndashing_away\t💨\ndeaf_person\t🧏\ndeciduous_tree\t🌳\ndeer\t🦌\ndelivery_truck\t🚚\ndepartment_store\t🏬\nderelict_house\t🏚\ndesert\t🏜\ndesert_island\t🏝\ndesktop_computer\t🖥\ndetective\t🕵\ndetective_dark_skin_tone\t🕵🏿\ndetective_light_skin_tone\t🕵🏻\ndetective_medium-dark_skin_tone\t🕵🏾\ndetective_medium-light_skin_tone\t🕵🏼\ndetective_medium_skin_tone\t🕵🏽\ndiamond_suit\t♦\ndiamond_with_a_dot\t💠\ndim_button\t🔅\ndirect_hit\t🎯\ndisappointed_face\t😞\ndiving_mask\t🤿\ndiya_lamp\t🪔\ndizzy\t💫\ndizzy_face\t😵\ndna\t🧬\ndog\t🐶\ndog_face\t🐶\ndollar_banknote\t💵\ndolphin\t🐬\ndoor\t🚪\ndotted_six-pointed_star\t🔯\ndouble_curly_loop\t➿\ndouble_exclamation_mark\t‼\ndoughnut\t🍩\ndove\t🕊\ndown-left_arrow\t↙\ndown-right_arrow\t↘\ndown_arrow\t⬇\ndowncast_face_with_sweat\t😓\ndownwards_button\t🔽\ndragon\t🐉\ndragon_face\t🐲\ndress\t👗\ndrooling_face\t🤤\ndrop_of_blood\t🩸\ndroplet\t💧\ndrum\t🥁\nduck\t🦆\ndumpling\t🥟\ndvd\t📀\ndark_skin_tone\t🏿\ndollar\t💵\ndiamonds\t♦\ndate\t📅\ndagger_knife\t🗡\ndancer\t💃\ndark_sunglasses\t🕶\ndash\t💨\nderelict_house_building\t🏚\ndiamond_shape_with_a_dot_inside\t💠\ndart\t🎯\ndisappointed_relieved\t😥\ndisappointed\t😞\ndo_not_litter\t🚯\ndog2\t🐕\ndouble_vertical_bar\t⏸\ndove_of_peace\t🕊\ndromedary_camel\t🐪\ndolls\t🎎\ndancers\t👯",
  "end_arrow\t🔚\necuador\t🇪🇨\negypt\t🇪🇬\nel_salvador\t🇸🇻\nengland\t🏴󠁧󠁢󠁥󠁮󠁧󠁿\nequatorial_guinea\t🇬🇶\neritrea\t🇪🇷\nestonia\t🇪🇪\nethiopia\t🇪🇹\neuropean_union\t🇪🇺\ne-mail\t📧\neagle\t🦅\near\t👂\near_dark_skin_tone\t👂🏿\near_light_skin_tone\t👂🏻\near_medium-dark_skin_tone\t👂🏾\near_medium-light_skin_tone\t👂🏼\near_medium_skin_tone\t👂🏽\near_of_corn\t🌽\near_with_hearing_aid\t🦻\negg\t🍳\neggplant\t🍆\neight-pointed_star\t✴\neight-spoked_asterisk\t✳\neight-thirty\t🕣\neight_o’clock\t🕗\neject_button\t⏏\nelectric_plug\t🔌\nelephant\t🐘\neleven-thirty\t🕦\neleven_o’clock\t🕚\nelf\t🧝\nelf_dark_skin_tone\t🧝🏿\nelf_light_skin_tone\t🧝🏻\nelf_medium-dark_skin_tone\t🧝🏾\nelf_medium-light_skin_tone\t🧝🏼\nelf_medium_skin_tone\t🧝🏽\nenvelope\t✉\nenvelope_with_arrow\t📩\neuro_banknote\t💶\nevergreen_tree\t🌲\newe\t🐑\nexclamation_mark\t❗\nexclamation_question_mark\t⁉\nexploding_head\t🤯\nexpressionless_face\t😑\neye\t👁\neye_in_speech_bubble\t👁\uFE0F\u200D🗨\uFE0F\neyes\t👀\neuro\t💶\ne__mail\t📧\near_of_rice\t🌾\nearth_americas\t🌎\nearth_asia\t🌏\nearth_africa\t🌍\neight_pointed_black_star\t✴\neight_spoked_asterisk\t✳\neject_symbol\t⏏\nemoji_modifier_fitzpatrick_type__1__2\t🏻\nemoji_modifier_fitzpatrick_type__3\t🏼\nemoji_modifier_fitzpatrick_type__4\t🏽\nemoji_modifier_fitzpatrick_type__5\t🏾\nemoji_modifier_fitzpatrick_type__6\t🏿\nend\t🔚\nemail\t✉\neuropean_castle\t🏰\neuropean_post_office\t🏤\nexpressionless\t😑\neyeglasses\t👓\nexclamation\t❗\neight\t8\uFE0F\u20E3",
  "free_button\t🆓\nfalkland_islands\t🇫🇰\nfaroe_islands\t🇫🇴\nfiji\t🇫🇯\nfinland\t🇫🇮\nfrance\t🇫🇷\nfrench_guiana\t🇬🇫\nfrench_polynesia\t🇵🇫\nfrench_southern_territories\t🇹🇫\nface_blowing_a_kiss\t😘\nface_savoring_food\t😋\nface_screaming_in_fear\t😱\nface_vomiting\t🤮\nface_with_hand_over_mouth\t🤭\nface_with_head-bandage\t🤕\nface_with_medical_mask\t😷\nface_with_monocle\t🧐\nface_with_open_mouth\t😮\nface_with_raised_eyebrow\t🤨\nface_with_rolling_eyes\t🙄\nface_with_steam_from_nose\t😤\nface_with_symbols_on_mouth\t🤬\nface_with_tears_of_joy\t😂\nface_with_thermometer\t🤒\nface_with_tongue\t😛\nface_without_mouth\t😶\nfactory\t🏭\nfairy\t🧚\nfairy_dark_skin_tone\t🧚🏿\nfairy_light_skin_tone\t🧚🏻\nfairy_medium-dark_skin_tone\t🧚🏾\nfairy_medium-light_skin_tone\t🧚🏼\nfairy_medium_skin_tone\t🧚🏽\nfalafel\t🧆\nfallen_leaf\t🍂\nfamily\t👪\nfamily_man_boy\t👨\u200D👦\nfamily_man_boy_boy\t👨\u200D👦\u200D👦\nfamily_man_girl\t👨\u200D👧\nfamily_man_girl_boy\t👨\u200D👧\u200D👦\nfamily_man_girl_girl\t👨\u200D👧\u200D👧\nfamily_man_man_boy\t👨\u200D👨\u200D👦\nfamily_man_man_boy_boy\t👨\u200D👨\u200D👦\u200D👦\nfamily_man_man_girl\t👨\u200D👨\u200D👧\nfamily_man_man_girl_boy\t👨\u200D👨\u200D👧\u200D👦\nfamily_man_man_girl_girl\t👨\u200D👨\u200D👧\u200D👧\nfamily_man_woman_boy\t👨\u200D👩\u200D👦\nfamily_man_woman_boy_boy\t👨\u200D👩\u200D👦\u200D👦\nfamily_man_woman_girl\t👨\u200D👩\u200D👧\nfamily_man_woman_girl_boy\t👨\u200D👩\u200D👧\u200D👦\nfamily_man_woman_girl_girl\t👨\u200D👩\u200D👧\u200D👧\nfamily_woman_boy\t👩\u200D👦\nfamily_woman_boy_boy\t👩\u200D👦\u200D👦\nfamily_woman_girl\t👩\u200D👧\nfamily_woman_girl_boy\t👩\u200D👧\u200D👦\nfamily_woman_girl_girl\t👩\u200D👧\u200D👧\nfamily_woman_woman_boy\t👩\u200D👩\u200D👦\nfamily_woman_woman_boy_boy\t👩\u200D👩\u200D👦\u200D👦\nfamily_woman_woman_girl\t👩\u200D👩\u200D👧\nfamily_woman_woman_girl_boy\t👩\u200D👩\u200D👧\u200D👦\nfamily_woman_woman_girl_girl\t👩\u200D👩\u200D👧\u200D👧\nfast-forward_button\t⏩\nfast_down_button\t⏬\nfast_reverse_button\t⏪\nfast_up_button\t⏫\nfax_machine\t📠\nfearful_face\t😨\nfemale_sign\t♀\nferris_wheel\t🎡\nferry\t⛴\nfield_hockey\t🏑\nfile_cabinet\t🗄\nfile_folder\t📁\nfilm_frames\t🎞\nfilm_projector\t📽\nfire\t🔥\nfire_extinguisher\t🧯\nfirecracker\t🧨\nfire_engine\t🚒\nfireworks\t🎆\nfirst_quarter_moon\t🌓\nfirst_quarter_moon_face\t🌛\nfish\t🐟\nfish_cake_with_swirl\t🍥\nfishing_pole\t🎣\nfive-thirty\t🕠\nfive_o’clock\t🕔\nflag_in_hole\t⛳\nflamingo\t🦩\nflashlight\t🔦\nflat_shoe\t🥿\nfleur-de-lis\t⚜\nflexed_biceps\t💪\nflexed_biceps_dark_skin_tone\t💪🏿\nflexed_biceps_light_skin_tone\t💪🏻\nflexed_biceps_medium-dark_skin_tone\t💪🏾\nflexed_biceps_medium-light_skin_tone\t💪🏼\nflexed_biceps_medium_skin_tone\t💪🏽\nfloppy_disk\t💾\nflower_playing_cards\t🎴\nflushed_face\t😳\nflying_disc\t🥏\nflying_saucer\t🛸\nfog\t🌫\nfoggy\t🌁\nfolded_hands\t🙏\nfolded_hands_dark_skin_tone\t🙏🏿\nfolded_hands_light_skin_tone\t🙏🏻\nfolded_hands_medium-dark_skin_tone\t🙏🏾\nfolded_hands_medium-light_skin_tone\t🙏🏼\nfolded_hands_medium_skin_tone\t🙏🏽\nfoot\t🦶\nfootprints\t👣\nfork_and_knife\t🍴\nfork_and_knife_with_plate\t🍽\nfortune_cookie\t🥠\nfountain\t⛲\nfountain_pen\t🖋\nfour-thirty\t🕟\nfour_leaf_clover\t🍀\nfour_o’clock\t🕓\nfox_face\t🦊\nframed_picture\t🖼\nfrench_fries\t🍟\nfried_shrimp\t🍤\nfrog_face\t🐸\nfront-facing_baby_chick\t🐥\nfrowning_face\t☹\nfrowning_face_with_open_mouth\t😦\nfuel_pump\t⛽\nfull_moon\t🌕\nfull_moon_face\t🌝\nfuneral_urn\t⚱\nfootball\t🏈\nfast_forward\t⏩\nflags\t🎏\nflipper\t🐬\nface_with_head__bandage\t🤕\nfax\t📠\nfearful\t😨\nfield_hockey_stick_and_ball\t🏑\nfirst_quarter_moon_with_face\t🌛\nfish_cake\t🍥\nfishing_pole_and_fish\t🎣\nfacepunch\t👊\nflag_for_afghanistan\t🇦🇫\nflag_for_albania\t🇦🇱\nflag_for_algeria\t🇩🇿\nflag_for_american_samoa\t🇦🇸\nflag_for_andorra\t🇦🇩\nflag_for_angola\t🇦🇴\nflag_for_anguilla\t🇦🇮\nflag_for_antarctica\t🇦🇶\nflag_for_antigua_&_barbuda\t🇦🇬\nflag_for_argentina\t🇦🇷\nflag_for_armenia\t🇦🇲\nflag_for_aruba\t🇦🇼\nflag_for_ascension_island\t🇦🇨\nflag_for_australia\t🇦🇺\nflag_for_austria\t🇦🇹\nflag_for_azerbaijan\t🇦🇿\nflag_for_bahamas\t🇧🇸\nflag_for_bahrain\t🇧🇭\nflag_for_bangladesh\t🇧🇩\nflag_for_barbados\t🇧🇧\nflag_for_belarus\t🇧🇾\nflag_for_belgium\t🇧🇪\nflag_for_belize\t🇧🇿\nflag_for_benin\t🇧🇯\nflag_for_bermuda\t🇧🇲\nflag_for_bhutan\t🇧🇹\nflag_for_bolivia\t🇧🇴\nflag_for_bosnia_&_herzegovina\t🇧🇦\nflag_for_botswana\t🇧🇼\nflag_for_bouvet_island\t🇧🇻\nflag_for_brazil\t🇧🇷\nflag_for_british_indian_ocean_territory\t🇮🇴\nflag_for_british_virgin_islands\t🇻🇬\nflag_for_brunei\t🇧🇳\nflag_for_bulgaria\t🇧🇬\nflag_for_burkina_faso\t🇧🇫\nflag_for_burundi\t🇧🇮\nflag_for_cambodia\t🇰🇭\nflag_for_cameroon\t🇨🇲\nflag_for_canada\t🇨🇦\nflag_for_canary_islands\t🇮🇨\nflag_for_cape_verde\t🇨🇻\nflag_for_caribbean_netherlands\t🇧🇶\nflag_for_cayman_islands\t🇰🇾\nflag_for_central_african_republic\t🇨🇫\nflag_for_ceuta_&_melilla\t🇪🇦\nflag_for_chad\t🇹🇩\nflag_for_chile\t🇨🇱\nflag_for_china\t🇨🇳\nflag_for_christmas_island\t🇨🇽\nflag_for_clipperton_island\t🇨🇵\nflag_for_cocos__islands\t🇨🇨\nflag_for_colombia\t🇨🇴\nflag_for_comoros\t🇰🇲\nflag_for_congo____brazzaville\t🇨🇬\nflag_for_congo____kinshasa\t🇨🇩\nflag_for_cook_islands\t🇨🇰\nflag_for_costa_rica\t🇨🇷\nflag_for_croatia\t🇭🇷\nflag_for_cuba\t🇨🇺\nflag_for_curaçao\t🇨🇼\nflag_for_cyprus\t🇨🇾\nflag_for_czech_republic\t🇨🇿\nflag_for_côte_d’ivoire\t🇨🇮\nflag_for_denmark\t🇩🇰\nflag_for_diego_garcia\t🇩🇬\nflag_for_djibouti\t🇩🇯\nflag_for_dominica\t🇩🇲\nflag_for_dominican_republic\t🇩🇴\nflag_for_ecuador\t🇪🇨\nflag_for_egypt\t🇪🇬\nflag_for_el_salvador\t🇸🇻\nflag_for_equatorial_guinea\t🇬🇶\nflag_for_eritrea\t🇪🇷\nflag_for_estonia\t🇪🇪\nflag_for_ethiopia\t🇪🇹\nflag_for_european_union\t🇪🇺\nflag_for_falkland_islands\t🇫🇰\nflag_for_faroe_islands\t🇫🇴\nflag_for_fiji\t🇫🇯\nflag_for_finland\t🇫🇮\nflag_for_france\t🇫🇷\nflag_for_french_guiana\t🇬🇫\nflag_for_french_polynesia\t🇵🇫\nflag_for_french_southern_territories\t🇹🇫\nflag_for_gabon\t🇬🇦\nflag_for_gambia\t🇬🇲\nflag_for_georgia\t🇬🇪\nflag_for_germany\t🇩🇪\nflag_for_ghana\t🇬🇭\nflag_for_gibraltar\t🇬🇮\nflag_for_greece\t🇬🇷\nflag_for_greenland\t🇬🇱\nflag_for_grenada\t🇬🇩\nflag_for_guadeloupe\t🇬🇵\nflag_for_guam\t🇬🇺\nflag_for_guatemala\t🇬🇹\nflag_for_guernsey\t🇬🇬\nflag_for_guinea\t🇬🇳\nflag_for_guinea__bissau\t🇬🇼\nflag_for_guyana\t🇬🇾\nflag_for_haiti\t🇭🇹\nflag_for_heard_&_mcdonald_islands\t🇭🇲\nflag_for_honduras\t🇭🇳\nflag_for_hong_kong\t🇭🇰\nflag_for_hungary\t🇭🇺\nflag_for_iceland\t🇮🇸\nflag_for_india\t🇮🇳\nflag_for_indonesia\t🇮🇩\nflag_for_iran\t🇮🇷\nflag_for_iraq\t🇮🇶\nflag_for_ireland\t🇮🇪\nflag_for_isle_of_man\t🇮🇲\nflag_for_israel\t🇮🇱\nflag_for_italy\t🇮🇹\nflag_for_jamaica\t🇯🇲\nflag_for_japan\t🇯🇵\nflag_for_jersey\t🇯🇪\nflag_for_jordan\t🇯🇴\nflag_for_kazakhstan\t🇰🇿\nflag_for_kenya\t🇰🇪\nflag_for_kiribati\t🇰🇮\nflag_for_kosovo\t🇽🇰\nflag_for_kuwait\t🇰🇼\nflag_for_kyrgyzstan\t🇰🇬\nflag_for_laos\t🇱🇦\nflag_for_latvia\t🇱🇻\nflag_for_lebanon\t🇱🇧\nflag_for_lesotho\t🇱🇸\nflag_for_liberia\t🇱🇷\nflag_for_libya\t🇱🇾\nflag_for_liechtenstein\t🇱🇮\nflag_for_lithuania\t🇱🇹\nflag_for_luxembourg\t🇱🇺\nflag_for_macau\t🇲🇴\nflag_for_macedonia\t🇲🇰\nflag_for_madagascar\t🇲🇬\nflag_for_malawi\t🇲🇼\nflag_for_malaysia\t🇲🇾\nflag_for_maldives\t🇲🇻\nflag_for_mali\t🇲🇱\nflag_for_malta\t🇲🇹\nflag_for_marshall_islands\t🇲🇭\nflag_for_martinique\t🇲🇶\nflag_for_mauritania\t🇲🇷\nflag_for_mauritius\t🇲🇺\nflag_for_mayotte\t🇾🇹\nflag_for_mexico\t🇲🇽\nflag_for_micronesia\t🇫🇲\nflag_for_moldova\t🇲🇩\nflag_for_monaco\t🇲🇨\nflag_for_mongolia\t🇲🇳\nflag_for_montenegro\t🇲🇪\nflag_for_montserrat\t🇲🇸\nflag_for_morocco\t🇲🇦\nflag_for_mozambique\t🇲🇿\nflag_for_myanmar\t🇲🇲\nflag_for_namibia\t🇳🇦\nflag_for_nauru\t🇳🇷\nflag_for_nepal\t🇳🇵\nflag_for_netherlands\t🇳🇱\nflag_for_new_caledonia\t🇳🇨\nflag_for_new_zealand\t🇳🇿\nflag_for_nicaragua\t🇳🇮\nflag_for_niger\t🇳🇪\nflag_for_nigeria\t🇳🇬\nflag_for_niue\t🇳🇺\nflag_for_norfolk_island\t🇳🇫\nflag_for_north_korea\t🇰🇵\nflag_for_northern_mariana_islands\t🇲🇵\nflag_for_norway\t🇳🇴\nflag_for_oman\t🇴🇲\nflag_for_pakistan\t🇵🇰\nflag_for_palau\t🇵🇼\nflag_for_palestinian_territories\t🇵🇸\nflag_for_panama\t🇵🇦\nflag_for_papua_new_guinea\t🇵🇬\nflag_for_paraguay\t🇵🇾\nflag_for_peru\t🇵🇪\nflag_for_philippines\t🇵🇭\nflag_for_pitcairn_islands\t🇵🇳\nflag_for_poland\t🇵🇱\nflag_for_portugal\t🇵🇹\nflag_for_puerto_rico\t🇵🇷\nflag_for_qatar\t🇶🇦\nflag_for_romania\t🇷🇴\nflag_for_russia\t🇷🇺\nflag_for_rwanda\t🇷🇼\nflag_for_réunion\t🇷🇪\nflag_for_samoa\t🇼🇸\nflag_for_san_marino\t🇸🇲\nflag_for_saudi_arabia\t🇸🇦\nflag_for_senegal\t🇸🇳\nflag_for_serbia\t🇷🇸\nflag_for_seychelles\t🇸🇨\nflag_for_sierra_leone\t🇸🇱\nflag_for_singapore\t🇸🇬\nflag_for_sint_maarten\t🇸🇽\nflag_for_slovakia\t🇸🇰\nflag_for_slovenia\t🇸🇮\nflag_for_solomon_islands\t🇸🇧\nflag_for_somalia\t🇸🇴\nflag_for_south_africa\t🇿🇦\nflag_for_south_georgia_&_south_sandwich_islands\t🇬🇸\nflag_for_south_korea\t🇰🇷\nflag_for_south_sudan\t🇸🇸\nflag_for_spain\t🇪🇸\nflag_for_sri_lanka\t🇱🇰\nflag_for_st._barthélemy\t🇧🇱\nflag_for_st._helena\t🇸🇭\nflag_for_st._kitts_&_nevis\t🇰🇳\nflag_for_st._lucia\t🇱🇨\nflag_for_st._martin\t🇲🇫\nflag_for_st._pierre_&_miquelon\t🇵🇲\nflag_for_st._vincent_&_grenadines\t🇻🇨\nflag_for_sudan\t🇸🇩\nflag_for_suriname\t🇸🇷\nflag_for_svalbard_&_jan_mayen\t🇸🇯\nflag_for_swaziland\t🇸🇿\nflag_for_sweden\t🇸🇪\nflag_for_switzerland\t🇨🇭\nflag_for_syria\t🇸🇾\nflag_for_são_tomé_&_príncipe\t🇸🇹\nflag_for_taiwan\t🇹🇼\nflag_for_tajikistan\t🇹🇯\nflag_for_tanzania\t🇹🇿\nflag_for_thailand\t🇹🇭\nflag_for_timor__leste\t🇹🇱\nflag_for_togo\t🇹🇬\nflag_for_tokelau\t🇹🇰\nflag_for_tonga\t🇹🇴\nflag_for_trinidad_&_tobago\t🇹🇹\nflag_for_tristan_da_cunha\t🇹🇦\nflag_for_tunisia\t🇹🇳\nflag_for_turkey\t🇹🇷\nflag_for_turkmenistan\t🇹🇲\nflag_for_turks_&_caicos_islands\t🇹🇨\nflag_for_tuvalu\t🇹🇻\nflag_for_u.s._outlying_islands\t🇺🇲\nflag_for_u.s._virgin_islands\t🇻🇮\nflag_for_uganda\t🇺🇬\nflag_for_ukraine\t🇺🇦\nflag_for_united_arab_emirates\t🇦🇪\nflag_for_united_kingdom\t🇬🇧\nflag_for_united_states\t🇺🇸\nflag_for_uruguay\t🇺🇾\nflag_for_uzbekistan\t🇺🇿\nflag_for_vanuatu\t🇻🇺\nflag_for_vatican_city\t🇻🇦\nflag_for_venezuela\t🇻🇪\nflag_for_vietnam\t🇻🇳\nflag_for_wallis_&_futuna\t🇼🇫\nflag_for_western_sahara\t🇪🇭\nflag_for_yemen\t🇾🇪\nflag_for_zambia\t🇿🇲\nflag_for_zimbabwe\t🇿🇼\nflag_for_åland_islands\t🇦🇽\nfleur__de__lis\t⚜\nflushed\t😳\nframe_with_picture\t🖼\nfries\t🍟\nfrog\t🐸\nfrowning\t😦\nfuelpump\t⛽\nfull_moon_with_face\t🌝\nfour\t4\uFE0F\u20E3\nfive\t5\uFE0F\u20E3\nfeet\t🐾\nfist\t✊\nfree\t🆓",
  "gabon\t🇬🇦\ngambia\t🇬🇲\ngemini\t♊\ngeorgia\t🇬🇪\ngermany\t🇩🇪\nghana\t🇬🇭\ngibraltar\t🇬🇮\ngreece\t🇬🇷\ngreenland\t🇬🇱\ngrenada\t🇬🇩\nguadeloupe\t🇬🇵\nguam\t🇬🇺\nguatemala\t🇬🇹\nguernsey\t🇬🇬\nguinea\t🇬🇳\nguinea-bissau\t🇬🇼\nguyana\t🇬🇾\ngame_die\t🎲\ngarlic\t🧄\ngear\t⚙\ngem_stone\t💎\ngenie\t🧞\nghost\t👻\ngiraffe\t🦒\ngirl\t👧\ngirl_dark_skin_tone\t👧🏿\ngirl_light_skin_tone\t👧🏻\ngirl_medium-dark_skin_tone\t👧🏾\ngirl_medium-light_skin_tone\t👧🏼\ngirl_medium_skin_tone\t👧🏽\nglass_of_milk\t🥛\nglasses\t👓\nglobe_showing_americas\t🌎\nglobe_showing_asia-australia\t🌏\nglobe_showing_europe-africa\t🌍\nglobe_with_meridians\t🌐\ngloves\t🧤\nglowing_star\t🌟\ngoal_net\t🥅\ngoat\t🐐\ngoblin\t👺\ngoggles\t🥽\ngorilla\t🦍\ngraduation_cap\t🎓\ngrapes\t🍇\ngreen_apple\t🍏\ngreen_book\t📗\ngreen_circle\t🟢\ngreen_heart\t💚\ngreen_salad\t🥗\ngreen_square\t🟩\ngrimacing_face\t😬\ngrinning_cat_face\t😺\ngrinning_cat_face_with_smiling_eyes\t😸\ngrinning_face\t😀\ngrinning_face_with_big_eyes\t😃\ngrinning_face_with_smiling_eyes\t😄\ngrinning_face_with_sweat\t😅\ngrinning_squinting_face\t😆\ngrowing_heart\t💗\nguard\t💂\nguard_dark_skin_tone\t💂🏿\nguard_light_skin_tone\t💂🏻\nguard_medium-dark_skin_tone\t💂🏾\nguard_medium-light_skin_tone\t💂🏼\nguard_medium_skin_tone\t💂🏽\nguide_dog\t🦮\nguitar\t🎸\ngolf\t⛳\ngem\t💎\ngolfer\t🏌\ngrimacing\t😬\ngrinning\t😀\ngrin\t😁\nguardsman\t💂\ngift_heart\t💝\ngun\t🔫\ngrey_exclamation\t❕\ngrey_question\t❔\ngift\t🎁",
  "haiti\t🇭🇹\nheard_&_mcdonald_islands\t🇭🇲\nhonduras\t🇭🇳\nhong_kong_sar_china\t🇭🇰\nhungary\t🇭🇺\nhamburger\t🍔\nhammer\t🔨\nhammer_and_pick\t⚒\nhammer_and_wrench\t🛠\nhamster_face\t🐹\nhand_with_fingers_splayed\t🖐\nhand_with_fingers_splayed_dark_skin_tone\t🖐🏿\nhand_with_fingers_splayed_light_skin_tone\t🖐🏻\nhand_with_fingers_splayed_medium-dark_skin_tone\t🖐🏾\nhand_with_fingers_splayed_medium-light_skin_tone\t🖐🏼\nhand_with_fingers_splayed_medium_skin_tone\t🖐🏽\nhandbag\t👜\nhandshake\t🤝\nhatching_chick\t🐣\nheadphone\t🎧\nhear-no-evil_monkey\t🙉\nheart_decoration\t💟\nheart_suit\t♥\nheart_with_arrow\t💘\nheart_with_ribbon\t💝\nheavy_check_mark\t✔\nheavy_division_sign\t➗\nheavy_dollar_sign\t💲\nheavy_heart_exclamation\t❣\nheavy_large_circle\t⭕\nheavy_minus_sign\t➖\nheavy_multiplication_x\t✖\nheavy_plus_sign\t➕\nhedgehog\t🦔\nhelicopter\t🚁\nherb\t🌿\nhibiscus\t🌺\nhigh-heeled_shoe\t👠\nhigh-speed_train\t🚄\nhigh_voltage\t⚡\nhiking_boot\t🥾\nhindu_temple\t🛕\nhippopotamus\t🦛\nhole\t🕳\nhoney_pot\t🍯\nhoneybee\t🐝\nhorizontal_traffic_light\t🚥\nhorse\t🐴\nhorse_face\t🐴\nhorse_racing\t🏇\nhorse_racing_dark_skin_tone\t🏇🏿\nhorse_racing_light_skin_tone\t🏇🏻\nhorse_racing_medium-dark_skin_tone\t🏇🏾\nhorse_racing_medium-light_skin_tone\t🏇🏼\nhorse_racing_medium_skin_tone\t🏇🏽\nhospital\t🏥\nhot_beverage\t☕\nhot_dog\t🌭\nhot_face\t🥵\nhot_pepper\t🌶\nhot_springs\t♨\nhotel\t🏨\nhourglass_done\t⌛\nhourglass_not_done\t⏳\nhouse\t🏠\nhouse_with_garden\t🏡\nhouses\t🏘\nhugging_face\t🤗\nhundred_points\t💯\nhushed_face\t😯\nheartbeat\t💓\nhearts\t♥\nhatched_chick\t🐥\nheartpulse\t💗\nhaircut\t💇\nhamster\t🐹\nheadphones\t🎧\nhear_no_evil\t🙉\nheart\t❤\nheavy_exclamation_mark\t❗\nheavy_heart_exclamation_mark_ornament\t❣\nhelm_symbol\t⎈\nhelmet_with_white_cross\t⛑\nhigh_heel\t👠\nhigh_brightness\t🔆\nhocho\t🔪\nhotsprings\t♨\nhourglass\t⌛\nhourglass_flowing_sand\t⏳\nhouse_buildings\t🏘\nhushed\t😯\nhankey\t💩\nhand\t✋\nheart_eyes_cat\t😻\nheart_eyes\t😍",
  "id_button\t🆔\niceland\t🇮🇸\nindia\t🇮🇳\nindonesia\t🇮🇩\niran\t🇮🇷\niraq\t🇮🇶\nireland\t🇮🇪\nisle_of_man\t🇮🇲\nisrael\t🇮🇱\nitaly\t🇮🇹\nice\t🧊\nice_cream\t🍨\nice_hockey\t🏒\nice_skate\t⛸\ninbox_tray\t📥\nincoming_envelope\t📨\nindex_pointing_up\t☝\nindex_pointing_up_dark_skin_tone\t☝🏿\nindex_pointing_up_light_skin_tone\t☝🏻\nindex_pointing_up_medium-dark_skin_tone\t☝🏾\nindex_pointing_up_medium-light_skin_tone\t☝🏼\nindex_pointing_up_medium_skin_tone\t☝🏽\ninfinity\t♾\ninformation\tℹ\ninput_latin_letters\t🔤\ninput_latin_lowercase\t🔡\ninput_latin_uppercase\t🔠\ninput_numbers\t🔢\ninput_symbols\t🔣\nideograph_advantage\t🉐\ninterrobang\t⁉\nice_hockey_stick_and_puck\t🏒\nimp\t👿\ninformation_desk_person\t💁\ninformation_source\tℹ\nizakaya_lantern\t🏮\niphone\t📱\ninnocent\t😇\nicecream\t🍦\nid\t🆔",
  "jamaica\t🇯🇲\njapan\t🗾\njapanese_acceptable_button\t🉑\njapanese_application_button\t🈸\njapanese_bargain_button\t🉐\njapanese_castle\t🏯\njapanese_congratulations_button\t㊗\njapanese_discount_button\t🈹\njapanese_dolls\t🎎\njapanese_free_of_charge_button\t🈚\njapanese_here_button\t🈁\njapanese_monthly_amount_button\t🈷\njapanese_no_vacancy_button\t🈵\njapanese_not_free_of_charge_button\t🈶\njapanese_open_for_business_button\t🈺\njapanese_passing_grade_button\t🈴\njapanese_post_office\t🏣\njapanese_prohibited_button\t🈲\njapanese_reserved_button\t🈯\njapanese_secret_button\t㊙\njapanese_service_charge_button\t🈂\njapanese_symbol_for_beginner\t🔰\njapanese_vacancy_button\t🈳\njersey\t🇯🇪\njordan\t🇯🇴\njack-o-lantern\t🎃\njeans\t👖\njigsaw\t🧩\njoker\t🃏\njoystick\t🕹\njoy_cat\t😹\njoy\t😂\njack_o_lantern\t🎃\njapanese_goblin\t👺\njapanese_ogre\t👹",
  "kazakhstan\t🇰🇿\nkenya\t🇰🇪\nkiribati\t🇰🇮\nkosovo\t🇽🇰\nkuwait\t🇰🇼\nkyrgyzstan\t🇰🇬\nkaaba\t🕋\nkangaroo\t🦘\nkey\t🔑\nkeyboard\t⌨\nkeycap_#\t#\uFE0F\u20E3\nkeycap_*\t*\uFE0F\u20E3\nkeycap_0\t0\uFE0F\u20E3\nkeycap_1\t1\uFE0F\u20E3\nkeycap_10\t🔟\nkeycap_2\t2\uFE0F\u20E3\nkeycap_3\t3\uFE0F\u20E3\nkeycap_4\t4\uFE0F\u20E3\nkeycap_5\t5\uFE0F\u20E3\nkeycap_6\t6\uFE0F\u20E3\nkeycap_7\t7\uFE0F\u20E3\nkeycap_8\t8\uFE0F\u20E3\nkeycap_9\t9\uFE0F\u20E3\nkick_scooter\t🛴\nkimono\t👘\nkiss\t💋\nkiss_man_man\t👨\u200D❤\uFE0F\u200D💋\u200D👨\nkiss_mark\t💋\nkiss_woman_man\t👩\u200D❤\uFE0F\u200D💋\u200D👨\nkiss_woman_woman\t👩\u200D❤\uFE0F\u200D💋\u200D👩\nkissing_cat_face\t😽\nkissing_face\t😗\nkissing_face_with_closed_eyes\t😚\nkissing_face_with_smiling_eyes\t😙\nkitchen_knife\t🔪\nkite\t🪁\nkiwi_fruit\t🥝\nkoala\t🐨\nkeycap_asterisk\t*\u20E3\nkeycap_digit_eight\t8\u20E3\nkeycap_digit_five\t5\u20E3\nkeycap_digit_four\t4\u20E3\nkeycap_digit_nine\t9\u20E3\nkeycap_digit_one\t1\u20E3\nkeycap_digit_seven\t7\u20E3\nkeycap_digit_six\t6\u20E3\nkeycap_digit_three\t3\u20E3\nkeycap_digit_two\t2\u20E3\nkeycap_digit_zero\t0\u20E3\nkeycap_number_sign\t#\u20E3\nkissing_heart\t😘\nknife\t🔪\nkissing_cat\t😽\nkissing\t😗\nkissing_closed_eyes\t😚\nkissing_smiling_eyes\t😙\nkoko\t🈁",
  "laos\t🇱🇦\nlatvia\t🇱🇻\nlebanon\t🇱🇧\nleo\t♌\nlesotho\t🇱🇸\nliberia\t🇱🇷\nlibra\t♎\nlibya\t🇱🇾\nliechtenstein\t🇱🇮\nlithuania\t🇱🇹\nluxembourg\t🇱🇺\nlab_coat\t🥼\nlabel\t🏷\nlacrosse\t🥍\nlady_beetle\t🐞\nlaptop_computer\t💻\nlarge_blue_diamond\t🔷\nlarge_orange_diamond\t🔶\nlast_quarter_moon\t🌗\nlast_quarter_moon_face\t🌜\nlast_track_button\t⏮\nlatin_cross\t✝\nleaf_fluttering_in_wind\t🍃\nleafy_green\t🥬\nledger\t📒\nleft-facing_fist\t🤛\nleft-facing_fist_dark_skin_tone\t🤛🏿\nleft-facing_fist_light_skin_tone\t🤛🏻\nleft-facing_fist_medium-dark_skin_tone\t🤛🏾\nleft-facing_fist_medium-light_skin_tone\t🤛🏼\nleft-facing_fist_medium_skin_tone\t🤛🏽\nleft-right_arrow\t↔\nleft_arrow\t⬅\nleft_arrow_curving_right\t↪\nleft_luggage\t🛅\nleft_speech_bubble\t🗨\nleg\t🦵\nlemon\t🍋\nleopard\t🐆\nlevel_slider\t🎚\nlight_bulb\t💡\nlight_rail\t🚈\nlink\t🔗\nlinked_paperclips\t🖇\nlion_face\t🦁\nlipstick\t💄\nlitter_in_bin_sign\t🚮\nlizard\t🦎\nllama\t🦙\nlobster\t🦞\nlocked\t🔒\nlocked_with_key\t🔐\nlocked_with_pen\t🔏\nlocomotive\t🚂\nlollipop\t🍭\nlotion_bottle\t🧴\nloudly_crying_face\t😭\nloudspeaker\t📢\nlove-you_gesture\t🤟\nlove-you_gesture_dark_skin_tone\t🤟🏿\nlove-you_gesture_light_skin_tone\t🤟🏻\nlove-you_gesture_medium-dark_skin_tone\t🤟🏾\nlove-you_gesture_medium-light_skin_tone\t🤟🏼\nlove-you_gesture_medium_skin_tone\t🤟🏽\nlove_hotel\t🏩\nlove_letter\t💌\nluggage\t🧳\nlying_face\t🤥\nlight_skin_tone\t🏻\nloop\t➿\nlantern\t🏮\nlarge_blue_circle\t🔵\nlast_quarter_moon_with_face\t🌜\nleaves\t🍃\nleft_right_arrow\t↔\nleftwards_arrow_with_hook\t↩\nlock\t🔒\nlock_with_ink_pen\t🔏\nlow_brightness\t🔅\nlower_left_ballpoint_pen\t🖊\nlower_left_crayon\t🖍\nlower_left_fountain_pen\t🖋\nlower_left_paintbrush\t🖌\nlips\t👄\nlaughing\t😆\nloud_sound\t🔊",
  "macau_sar_china\t🇲🇴\nmacedonia\t🇲🇰\nmadagascar\t🇲🇬\nmalawi\t🇲🇼\nmalaysia\t🇲🇾\nmaldives\t🇲🇻\nmali\t🇲🇱\nmalta\t🇲🇹\nmarshall_islands\t🇲🇭\nmartinique\t🇲🇶\nmauritania\t🇲🇷\nmauritius\t🇲🇺\nmayotte\t🇾🇹\nmexico\t🇲🇽\nmicronesia\t🇫🇲\nmoldova\t🇲🇩\nmonaco\t🇲🇨\nmongolia\t🇲🇳\nmontenegro\t🇲🇪\nmontserrat\t🇲🇸\nmorocco\t🇲🇦\nmozambique\t🇲🇿\nmrs._claus\t🤶\nmrs._claus_dark_skin_tone\t🤶🏿\nmrs._claus_light_skin_tone\t🤶🏻\nmrs._claus_medium-dark_skin_tone\t🤶🏾\nmrs._claus_medium-light_skin_tone\t🤶🏼\nmrs._claus_medium_skin_tone\t🤶🏽\nmyanmar_(burma)\t🇲🇲\nmage\t🧙\nmage_dark_skin_tone\t🧙🏿\nmage_light_skin_tone\t🧙🏻\nmage_medium-dark_skin_tone\t🧙🏾\nmage_medium-light_skin_tone\t🧙🏼\nmage_medium_skin_tone\t🧙🏽\nmagnet\t🧲\nmagnifying_glass_tilted_left\t🔍\nmagnifying_glass_tilted_right\t🔎\nmahjong_red_dragon\t🀄\nmale_sign\t♂\nman\t👨\nman_and_woman_holding_hands\t👫\nman_artist\t👨\u200D🎨\nman_artist_dark_skin_tone\t👨🏿\u200D🎨\nman_artist_light_skin_tone\t👨🏻\u200D🎨\nman_artist_medium-dark_skin_tone\t👨🏾\u200D🎨\nman_artist_medium-light_skin_tone\t👨🏼\u200D🎨\nman_artist_medium_skin_tone\t👨🏽\u200D🎨\nman_astronaut\t👨\u200D🚀\nman_astronaut_dark_skin_tone\t👨🏿\u200D🚀\nman_astronaut_light_skin_tone\t👨🏻\u200D🚀\nman_astronaut_medium-dark_skin_tone\t👨🏾\u200D🚀\nman_astronaut_medium-light_skin_tone\t👨🏼\u200D🚀\nman_astronaut_medium_skin_tone\t👨🏽\u200D🚀\nman_biking\t🚴\u200D♂\uFE0F\nman_biking_dark_skin_tone\t🚴🏿\u200D♂\uFE0F\nman_biking_light_skin_tone\t🚴🏻\u200D♂\uFE0F\nman_biking_medium-dark_skin_tone\t🚴🏾\u200D♂\uFE0F\nman_biking_medium-light_skin_tone\t🚴🏼\u200D♂\uFE0F\nman_biking_medium_skin_tone\t🚴🏽\u200D♂\uFE0F\nman_bouncing_ball\t⛹\uFE0F\u200D♂\uFE0F\nman_bouncing_ball_dark_skin_tone\t⛹🏿\u200D♂\uFE0F\nman_bouncing_ball_light_skin_tone\t⛹🏻\u200D♂\uFE0F\nman_bouncing_ball_medium-dark_skin_tone\t⛹🏾\u200D♂\uFE0F\nman_bouncing_ball_medium-light_skin_tone\t⛹🏼\u200D♂\uFE0F\nman_bouncing_ball_medium_skin_tone\t⛹🏽\u200D♂\uFE0F\nman_bowing\t🙇\u200D♂\uFE0F\nman_bowing_dark_skin_tone\t🙇🏿\u200D♂\uFE0F\nman_bowing_light_skin_tone\t🙇🏻\u200D♂\uFE0F\nman_bowing_medium-dark_skin_tone\t🙇🏾\u200D♂\uFE0F\nman_bowing_medium-light_skin_tone\t🙇🏼\u200D♂\uFE0F\nman_bowing_medium_skin_tone\t🙇🏽\u200D♂\uFE0F\nman_cartwheeling\t🤸\u200D♂\uFE0F\nman_cartwheeling_dark_skin_tone\t🤸🏿\u200D♂\uFE0F\nman_cartwheeling_light_skin_tone\t🤸🏻\u200D♂\uFE0F\nman_cartwheeling_medium-dark_skin_tone\t🤸🏾\u200D♂\uFE0F\nman_cartwheeling_medium-light_skin_tone\t🤸🏼\u200D♂\uFE0F\nman_cartwheeling_medium_skin_tone\t🤸🏽\u200D♂\uFE0F\nman_climbing\t🧗\u200D♂\uFE0F\nman_climbing_dark_skin_tone\t🧗🏿\u200D♂\uFE0F\nman_climbing_light_skin_tone\t🧗🏻\u200D♂\uFE0F\nman_climbing_medium-dark_skin_tone\t🧗🏾\u200D♂\uFE0F\nman_climbing_medium-light_skin_tone\t🧗🏼\u200D♂\uFE0F\nman_climbing_medium_skin_tone\t🧗🏽\u200D♂\uFE0F\nman_construction_worker\t👷\u200D♂\uFE0F\nman_construction_worker_dark_skin_tone\t👷🏿\u200D♂\uFE0F\nman_construction_worker_light_skin_tone\t👷🏻\u200D♂\uFE0F\nman_construction_worker_medium-dark_skin_tone\t👷🏾\u200D♂\uFE0F\nman_construction_worker_medium-light_skin_tone\t👷🏼\u200D♂\uFE0F\nman_construction_worker_medium_skin_tone\t👷🏽\u200D♂\uFE0F\nman_cook\t👨\u200D🍳\nman_cook_dark_skin_tone\t👨🏿\u200D🍳\nman_cook_light_skin_tone\t👨🏻\u200D🍳\nman_cook_medium-dark_skin_tone\t👨🏾\u200D🍳\nman_cook_medium-light_skin_tone\t👨🏼\u200D🍳\nman_cook_medium_skin_tone\t👨🏽\u200D🍳\nman_dancing\t🕺\nman_dancing_dark_skin_tone\t🕺🏿\nman_dancing_light_skin_tone\t🕺🏻\nman_dancing_medium-dark_skin_tone\t🕺🏾\nman_dancing_medium-light_skin_tone\t🕺🏼\nman_dancing_medium_skin_tone\t🕺🏽\nman_dark_skin_tone\t👨🏿\nman_detective\t🕵\uFE0F\u200D♂\uFE0F\nman_detective_dark_skin_tone\t🕵🏿\u200D♂\uFE0F\nman_detective_light_skin_tone\t🕵🏻\u200D♂\uFE0F\nman_detective_medium-dark_skin_tone\t🕵🏾\u200D♂\uFE0F\nman_detective_medium-light_skin_tone\t🕵🏼\u200D♂\uFE0F\nman_detective_medium_skin_tone\t🕵🏽\u200D♂\uFE0F\nman_elf\t🧝\u200D♂\uFE0F\nman_elf_dark_skin_tone\t🧝🏿\u200D♂\uFE0F\nman_elf_light_skin_tone\t🧝🏻\u200D♂\uFE0F\nman_elf_medium-dark_skin_tone\t🧝🏾\u200D♂\uFE0F\nman_elf_medium-light_skin_tone\t🧝🏼\u200D♂\uFE0F\nman_elf_medium_skin_tone\t🧝🏽\u200D♂\uFE0F\nman_facepalming\t🤦\u200D♂\uFE0F\nman_facepalming_dark_skin_tone\t🤦🏿\u200D♂\uFE0F\nman_facepalming_light_skin_tone\t🤦🏻\u200D♂\uFE0F\nman_facepalming_medium-dark_skin_tone\t🤦🏾\u200D♂\uFE0F\nman_facepalming_medium-light_skin_tone\t🤦🏼\u200D♂\uFE0F\nman_facepalming_medium_skin_tone\t🤦🏽\u200D♂\uFE0F\nman_factory_worker\t👨\u200D🏭\nman_factory_worker_dark_skin_tone\t👨🏿\u200D🏭\nman_factory_worker_light_skin_tone\t👨🏻\u200D🏭\nman_factory_worker_medium-dark_skin_tone\t👨🏾\u200D🏭\nman_factory_worker_medium-light_skin_tone\t👨🏼\u200D🏭\nman_factory_worker_medium_skin_tone\t👨🏽\u200D🏭\nman_fairy\t🧚\u200D♂\uFE0F\nman_fairy_dark_skin_tone\t🧚🏿\u200D♂\uFE0F\nman_fairy_light_skin_tone\t🧚🏻\u200D♂\uFE0F\nman_fairy_medium-dark_skin_tone\t🧚🏾\u200D♂\uFE0F\nman_fairy_medium-light_skin_tone\t🧚🏼\u200D♂\uFE0F\nman_fairy_medium_skin_tone\t🧚🏽\u200D♂\uFE0F\nman_farmer\t👨\u200D🌾\nman_farmer_dark_skin_tone\t👨🏿\u200D🌾\nman_farmer_light_skin_tone\t👨🏻\u200D🌾\nman_farmer_medium-dark_skin_tone\t👨🏾\u200D🌾\nman_farmer_medium-light_skin_tone\t👨🏼\u200D🌾\nman_farmer_medium_skin_tone\t👨🏽\u200D🌾\nman_firefighter\t👨\u200D🚒\nman_firefighter_dark_skin_tone\t👨🏿\u200D🚒\nman_firefighter_light_skin_tone\t👨🏻\u200D🚒\nman_firefighter_medium-dark_skin_tone\t👨🏾\u200D🚒\nman_firefighter_medium-light_skin_tone\t👨🏼\u200D🚒\nman_firefighter_medium_skin_tone\t👨🏽\u200D🚒\nman_frowning\t🙍\u200D♂\uFE0F\nman_frowning_dark_skin_tone\t🙍🏿\u200D♂\uFE0F\nman_frowning_light_skin_tone\t🙍🏻\u200D♂\uFE0F\nman_frowning_medium-dark_skin_tone\t🙍🏾\u200D♂\uFE0F\nman_frowning_medium-light_skin_tone\t🙍🏼\u200D♂\uFE0F\nman_frowning_medium_skin_tone\t🙍🏽\u200D♂\uFE0F\nman_genie\t🧞\u200D♂\uFE0F\nman_gesturing_no\t🙅\u200D♂\uFE0F\nman_gesturing_no_dark_skin_tone\t🙅🏿\u200D♂\uFE0F\nman_gesturing_no_light_skin_tone\t🙅🏻\u200D♂\uFE0F\nman_gesturing_no_medium-dark_skin_tone\t🙅🏾\u200D♂\uFE0F\nman_gesturing_no_medium-light_skin_tone\t🙅🏼\u200D♂\uFE0F\nman_gesturing_no_medium_skin_tone\t🙅🏽\u200D♂\uFE0F\nman_gesturing_ok\t🙆\u200D♂\uFE0F\nman_gesturing_ok_dark_skin_tone\t🙆🏿\u200D♂\uFE0F\nman_gesturing_ok_light_skin_tone\t🙆🏻\u200D♂\uFE0F\nman_gesturing_ok_medium-dark_skin_tone\t🙆🏾\u200D♂\uFE0F\nman_gesturing_ok_medium-light_skin_tone\t🙆🏼\u200D♂\uFE0F\nman_gesturing_ok_medium_skin_tone\t🙆🏽\u200D♂\uFE0F\nman_getting_haircut\t💇\u200D♂\uFE0F\nman_getting_haircut_dark_skin_tone\t💇🏿\u200D♂\uFE0F\nman_getting_haircut_light_skin_tone\t💇🏻\u200D♂\uFE0F\nman_getting_haircut_medium-dark_skin_tone\t💇🏾\u200D♂\uFE0F\nman_getting_haircut_medium-light_skin_tone\t💇🏼\u200D♂\uFE0F\nman_getting_haircut_medium_skin_tone\t💇🏽\u200D♂\uFE0F\nman_getting_massage\t💆\u200D♂\uFE0F\nman_getting_massage_dark_skin_tone\t💆🏿\u200D♂\uFE0F\nman_getting_massage_light_skin_tone\t💆🏻\u200D♂\uFE0F\nman_getting_massage_medium-dark_skin_tone\t💆🏾\u200D♂\uFE0F\nman_getting_massage_medium-light_skin_tone\t💆🏼\u200D♂\uFE0F\nman_getting_massage_medium_skin_tone\t💆🏽\u200D♂\uFE0F\nman_golfing\t🏌\uFE0F\u200D♂\uFE0F\nman_golfing_dark_skin_tone\t🏌🏿\u200D♂\uFE0F\nman_golfing_light_skin_tone\t🏌🏻\u200D♂\uFE0F\nman_golfing_medium-dark_skin_tone\t🏌🏾\u200D♂\uFE0F\nman_golfing_medium-light_skin_tone\t🏌🏼\u200D♂\uFE0F\nman_golfing_medium_skin_tone\t🏌🏽\u200D♂\uFE0F\nman_guard\t💂\u200D♂\uFE0F\nman_guard_dark_skin_tone\t💂🏿\u200D♂\uFE0F\nman_guard_light_skin_tone\t💂🏻\u200D♂\uFE0F\nman_guard_medium-dark_skin_tone\t💂🏾\u200D♂\uFE0F\nman_guard_medium-light_skin_tone\t💂🏼\u200D♂\uFE0F\nman_guard_medium_skin_tone\t💂🏽\u200D♂\uFE0F\nman_health_worker\t👨\u200D⚕\uFE0F\nman_health_worker_dark_skin_tone\t👨🏿\u200D⚕\uFE0F\nman_health_worker_light_skin_tone\t👨🏻\u200D⚕\uFE0F\nman_health_worker_medium-dark_skin_tone\t👨🏾\u200D⚕\uFE0F\nman_health_worker_medium-light_skin_tone\t👨🏼\u200D⚕\uFE0F\nman_health_worker_medium_skin_tone\t👨🏽\u200D⚕\uFE0F\nman_in_lotus_position\t🧘\u200D♂\uFE0F\nman_in_lotus_position_dark_skin_tone\t🧘🏿\u200D♂\uFE0F\nman_in_lotus_position_light_skin_tone\t🧘🏻\u200D♂\uFE0F\nman_in_lotus_position_medium-dark_skin_tone\t🧘🏾\u200D♂\uFE0F\nman_in_lotus_position_medium-light_skin_tone\t🧘🏼\u200D♂\uFE0F\nman_in_lotus_position_medium_skin_tone\t🧘🏽\u200D♂\uFE0F\nman_in_manual_wheelchair\t👨\u200D🦽\nman_in_motorized_wheelchair\t👨\u200D🦼\nman_in_steamy_room\t🧖\u200D♂\uFE0F\nman_in_steamy_room_dark_skin_tone\t🧖🏿\u200D♂\uFE0F\nman_in_steamy_room_light_skin_tone\t🧖🏻\u200D♂\uFE0F\nman_in_steamy_room_medium-dark_skin_tone\t🧖🏾\u200D♂\uFE0F\nman_in_steamy_room_medium-light_skin_tone\t🧖🏼\u200D♂\uFE0F\nman_in_steamy_room_medium_skin_tone\t🧖🏽\u200D♂\uFE0F\nman_in_suit_levitating\t🕴\nman_in_suit_levitating_dark_skin_tone\t🕴🏿\nman_in_suit_levitating_light_skin_tone\t🕴🏻\nman_in_suit_levitating_medium-dark_skin_tone\t🕴🏾\nman_in_suit_levitating_medium-light_skin_tone\t🕴🏼\nman_in_suit_levitating_medium_skin_tone\t🕴🏽\nman_in_tuxedo\t🤵\nman_in_tuxedo_dark_skin_tone\t🤵🏿\nman_in_tuxedo_light_skin_tone\t🤵🏻\nman_in_tuxedo_medium-dark_skin_tone\t🤵🏾\nman_in_tuxedo_medium-light_skin_tone\t🤵🏼\nman_in_tuxedo_medium_skin_tone\t🤵🏽\nman_judge\t👨\u200D⚖\uFE0F\nman_judge_dark_skin_tone\t👨🏿\u200D⚖\uFE0F\nman_judge_light_skin_tone\t👨🏻\u200D⚖\uFE0F\nman_judge_medium-dark_skin_tone\t👨🏾\u200D⚖\uFE0F\nman_judge_medium-light_skin_tone\t👨🏼\u200D⚖\uFE0F\nman_judge_medium_skin_tone\t👨🏽\u200D⚖\uFE0F\nman_juggling\t🤹\u200D♂\uFE0F\nman_juggling_dark_skin_tone\t🤹🏿\u200D♂\uFE0F\nman_juggling_light_skin_tone\t🤹🏻\u200D♂\uFE0F\nman_juggling_medium-dark_skin_tone\t🤹🏾\u200D♂\uFE0F\nman_juggling_medium-light_skin_tone\t🤹🏼\u200D♂\uFE0F\nman_juggling_medium_skin_tone\t🤹🏽\u200D♂\uFE0F\nman_lifting_weights\t🏋\uFE0F\u200D♂\uFE0F\nman_lifting_weights_dark_skin_tone\t🏋🏿\u200D♂\uFE0F\nman_lifting_weights_light_skin_tone\t🏋🏻\u200D♂\uFE0F\nman_lifting_weights_medium-dark_skin_tone\t🏋🏾\u200D♂\uFE0F\nman_lifting_weights_medium-light_skin_tone\t🏋🏼\u200D♂\uFE0F\nman_lifting_weights_medium_skin_tone\t🏋🏽\u200D♂\uFE0F\nman_light_skin_tone\t👨🏻\nman_mage\t🧙\u200D♂\uFE0F\nman_mage_dark_skin_tone\t🧙🏿\u200D♂\uFE0F\nman_mage_light_skin_tone\t🧙🏻\u200D♂\uFE0F\nman_mage_medium-dark_skin_tone\t🧙🏾\u200D♂\uFE0F\nman_mage_medium-light_skin_tone\t🧙🏼\u200D♂\uFE0F\nman_mage_medium_skin_tone\t🧙🏽\u200D♂\uFE0F\nman_mechanic\t👨\u200D🔧\nman_mechanic_dark_skin_tone\t👨🏿\u200D🔧\nman_mechanic_light_skin_tone\t👨🏻\u200D🔧\nman_mechanic_medium-dark_skin_tone\t👨🏾\u200D🔧\nman_mechanic_medium-light_skin_tone\t👨🏼\u200D🔧\nman_mechanic_medium_skin_tone\t👨🏽\u200D🔧\nman_medium-dark_skin_tone\t👨🏾\nman_medium-light_skin_tone\t👨🏼\nman_medium_skin_tone\t👨🏽\nman_mountain_biking\t🚵\u200D♂\uFE0F\nman_mountain_biking_dark_skin_tone\t🚵🏿\u200D♂\uFE0F\nman_mountain_biking_light_skin_tone\t🚵🏻\u200D♂\uFE0F\nman_mountain_biking_medium-dark_skin_tone\t🚵🏾\u200D♂\uFE0F\nman_mountain_biking_medium-light_skin_tone\t🚵🏼\u200D♂\uFE0F\nman_mountain_biking_medium_skin_tone\t🚵🏽\u200D♂\uFE0F\nman_office_worker\t👨\u200D💼\nman_office_worker_dark_skin_tone\t👨🏿\u200D💼\nman_office_worker_light_skin_tone\t👨🏻\u200D💼\nman_office_worker_medium-dark_skin_tone\t👨🏾\u200D💼\nman_office_worker_medium-light_skin_tone\t👨🏼\u200D💼\nman_office_worker_medium_skin_tone\t👨🏽\u200D💼\nman_pilot\t👨\u200D✈\uFE0F\nman_pilot_dark_skin_tone\t👨🏿\u200D✈\uFE0F\nman_pilot_light_skin_tone\t👨🏻\u200D✈\uFE0F\nman_pilot_medium-dark_skin_tone\t👨🏾\u200D✈\uFE0F\nman_pilot_medium-light_skin_tone\t👨🏼\u200D✈\uFE0F\nman_pilot_medium_skin_tone\t👨🏽\u200D✈\uFE0F\nman_playing_handball\t🤾\u200D♂\uFE0F\nman_playing_handball_dark_skin_tone\t🤾🏿\u200D♂\uFE0F\nman_playing_handball_light_skin_tone\t🤾🏻\u200D♂\uFE0F\nman_playing_handball_medium-dark_skin_tone\t🤾🏾\u200D♂\uFE0F\nman_playing_handball_medium-light_skin_tone\t🤾🏼\u200D♂\uFE0F\nman_playing_handball_medium_skin_tone\t🤾🏽\u200D♂\uFE0F\nman_playing_water_polo\t🤽\u200D♂\uFE0F\nman_playing_water_polo_dark_skin_tone\t🤽🏿\u200D♂\uFE0F\nman_playing_water_polo_light_skin_tone\t🤽🏻\u200D♂\uFE0F\nman_playing_water_polo_medium-dark_skin_tone\t🤽🏾\u200D♂\uFE0F\nman_playing_water_polo_medium-light_skin_tone\t🤽🏼\u200D♂\uFE0F\nman_playing_water_polo_medium_skin_tone\t🤽🏽\u200D♂\uFE0F\nman_police_officer\t👮\u200D♂\uFE0F\nman_police_officer_dark_skin_tone\t👮🏿\u200D♂\uFE0F\nman_police_officer_light_skin_tone\t👮🏻\u200D♂\uFE0F\nman_police_officer_medium-dark_skin_tone\t👮🏾\u200D♂\uFE0F\nman_police_officer_medium-light_skin_tone\t👮🏼\u200D♂\uFE0F\nman_police_officer_medium_skin_tone\t👮🏽\u200D♂\uFE0F\nman_pouting\t🙎\u200D♂\uFE0F\nman_pouting_dark_skin_tone\t🙎🏿\u200D♂\uFE0F\nman_pouting_light_skin_tone\t🙎🏻\u200D♂\uFE0F\nman_pouting_medium-dark_skin_tone\t🙎🏾\u200D♂\uFE0F\nman_pouting_medium-light_skin_tone\t🙎🏼\u200D♂\uFE0F\nman_pouting_medium_skin_tone\t🙎🏽\u200D♂\uFE0F\nman_raising_hand\t🙋\u200D♂\uFE0F\nman_raising_hand_dark_skin_tone\t🙋🏿\u200D♂\uFE0F\nman_raising_hand_light_skin_tone\t🙋🏻\u200D♂\uFE0F\nman_raising_hand_medium-dark_skin_tone\t🙋🏾\u200D♂\uFE0F\nman_raising_hand_medium-light_skin_tone\t🙋🏼\u200D♂\uFE0F\nman_raising_hand_medium_skin_tone\t🙋🏽\u200D♂\uFE0F\nman_rowing_boat\t🚣\u200D♂\uFE0F\nman_rowing_boat_dark_skin_tone\t🚣🏿\u200D♂\uFE0F\nman_rowing_boat_light_skin_tone\t🚣🏻\u200D♂\uFE0F\nman_rowing_boat_medium-dark_skin_tone\t🚣🏾\u200D♂\uFE0F\nman_rowing_boat_medium-light_skin_tone\t🚣🏼\u200D♂\uFE0F\nman_rowing_boat_medium_skin_tone\t🚣🏽\u200D♂\uFE0F\nman_running\t🏃\u200D♂\uFE0F\nman_running_dark_skin_tone\t🏃🏿\u200D♂\uFE0F\nman_running_light_skin_tone\t🏃🏻\u200D♂\uFE0F\nman_running_medium-dark_skin_tone\t🏃🏾\u200D♂\uFE0F\nman_running_medium-light_skin_tone\t🏃🏼\u200D♂\uFE0F\nman_running_medium_skin_tone\t🏃🏽\u200D♂\uFE0F\nman_scientist\t👨\u200D🔬\nman_scientist_dark_skin_tone\t👨🏿\u200D🔬\nman_scientist_light_skin_tone\t👨🏻\u200D🔬\nman_scientist_medium-dark_skin_tone\t👨🏾\u200D🔬\nman_scientist_medium-light_skin_tone\t👨🏼\u200D🔬\nman_scientist_medium_skin_tone\t👨🏽\u200D🔬\nman_shrugging\t🤷\u200D♂\uFE0F\nman_shrugging_dark_skin_tone\t🤷🏿\u200D♂\uFE0F\nman_shrugging_light_skin_tone\t🤷🏻\u200D♂\uFE0F\nman_shrugging_medium-dark_skin_tone\t🤷🏾\u200D♂\uFE0F\nman_shrugging_medium-light_skin_tone\t🤷🏼\u200D♂\uFE0F\nman_shrugging_medium_skin_tone\t🤷🏽\u200D♂\uFE0F\nman_singer\t👨\u200D🎤\nman_singer_dark_skin_tone\t👨🏿\u200D🎤\nman_singer_light_skin_tone\t👨🏻\u200D🎤\nman_singer_medium-dark_skin_tone\t👨🏾\u200D🎤\nman_singer_medium-light_skin_tone\t👨🏼\u200D🎤\nman_singer_medium_skin_tone\t👨🏽\u200D🎤\nman_student\t👨\u200D🎓\nman_student_dark_skin_tone\t👨🏿\u200D🎓\nman_student_light_skin_tone\t👨🏻\u200D🎓\nman_student_medium-dark_skin_tone\t👨🏾\u200D🎓\nman_student_medium-light_skin_tone\t👨🏼\u200D🎓\nman_student_medium_skin_tone\t👨🏽\u200D🎓\nman_surfing\t🏄\u200D♂\uFE0F\nman_surfing_dark_skin_tone\t🏄🏿\u200D♂\uFE0F\nman_surfing_light_skin_tone\t🏄🏻\u200D♂\uFE0F\nman_surfing_medium-dark_skin_tone\t🏄🏾\u200D♂\uFE0F\nman_surfing_medium-light_skin_tone\t🏄🏼\u200D♂\uFE0F\nman_surfing_medium_skin_tone\t🏄🏽\u200D♂\uFE0F\nman_swimming\t🏊\u200D♂\uFE0F\nman_swimming_dark_skin_tone\t🏊🏿\u200D♂\uFE0F\nman_swimming_light_skin_tone\t🏊🏻\u200D♂\uFE0F\nman_swimming_medium-dark_skin_tone\t🏊🏾\u200D♂\uFE0F\nman_swimming_medium-light_skin_tone\t🏊🏼\u200D♂\uFE0F\nman_swimming_medium_skin_tone\t🏊🏽\u200D♂\uFE0F\nman_teacher\t👨\u200D🏫\nman_teacher_dark_skin_tone\t👨🏿\u200D🏫\nman_teacher_light_skin_tone\t👨🏻\u200D🏫\nman_teacher_medium-dark_skin_tone\t👨🏾\u200D🏫\nman_teacher_medium-light_skin_tone\t👨🏼\u200D🏫\nman_teacher_medium_skin_tone\t👨🏽\u200D🏫\nman_technologist\t👨\u200D💻\nman_technologist_dark_skin_tone\t👨🏿\u200D💻\nman_technologist_light_skin_tone\t👨🏻\u200D💻\nman_technologist_medium-dark_skin_tone\t👨🏾\u200D💻\nman_technologist_medium-light_skin_tone\t👨🏼\u200D💻\nman_technologist_medium_skin_tone\t👨🏽\u200D💻\nman_tipping_hand\t💁\u200D♂\uFE0F\nman_tipping_hand_dark_skin_tone\t💁🏿\u200D♂\uFE0F\nman_tipping_hand_light_skin_tone\t💁🏻\u200D♂\uFE0F\nman_tipping_hand_medium-dark_skin_tone\t💁🏾\u200D♂\uFE0F\nman_tipping_hand_medium-light_skin_tone\t💁🏼\u200D♂\uFE0F\nman_tipping_hand_medium_skin_tone\t💁🏽\u200D♂\uFE0F\nman_vampire\t🧛\u200D♂\uFE0F\nman_vampire_dark_skin_tone\t🧛🏿\u200D♂\uFE0F\nman_vampire_light_skin_tone\t🧛🏻\u200D♂\uFE0F\nman_vampire_medium-dark_skin_tone\t🧛🏾\u200D♂\uFE0F\nman_vampire_medium-light_skin_tone\t🧛🏼\u200D♂\uFE0F\nman_vampire_medium_skin_tone\t🧛🏽\u200D♂\uFE0F\nman_walking\t🚶\u200D♂\uFE0F\nman_walking_dark_skin_tone\t🚶🏿\u200D♂\uFE0F\nman_walking_light_skin_tone\t🚶🏻\u200D♂\uFE0F\nman_walking_medium-dark_skin_tone\t🚶🏾\u200D♂\uFE0F\nman_walking_medium-light_skin_tone\t🚶🏼\u200D♂\uFE0F\nman_walking_medium_skin_tone\t🚶🏽\u200D♂\uFE0F\nman_wearing_turban\t👳\u200D♂\uFE0F\nman_wearing_turban_dark_skin_tone\t👳🏿\u200D♂\uFE0F\nman_wearing_turban_light_skin_tone\t👳🏻\u200D♂\uFE0F\nman_wearing_turban_medium-dark_skin_tone\t👳🏾\u200D♂\uFE0F\nman_wearing_turban_medium-light_skin_tone\t👳🏼\u200D♂\uFE0F\nman_wearing_turban_medium_skin_tone\t👳🏽\u200D♂\uFE0F\nman_with_probing_cane\t👨\u200D🦯\nman_with_chinese_cap\t👲\nman_with_chinese_cap_dark_skin_tone\t👲🏿\nman_with_chinese_cap_light_skin_tone\t👲🏻\nman_with_chinese_cap_medium-dark_skin_tone\t👲🏾\nman_with_chinese_cap_medium-light_skin_tone\t👲🏼\nman_with_chinese_cap_medium_skin_tone\t👲🏽\nman_zombie\t🧟\u200D♂\uFE0F\nmango\t🥭\nmantelpiece_clock\t🕰\nmanual_wheelchair\t🦽\nman’s_shoe\t👞\nmap_of_japan\t🗾\nmaple_leaf\t🍁\nmartial_arts_uniform\t🥋\nmate\t🧉\nmeat_on_bone\t🍖\nmechanical_arm\t🦾\nmechanical_leg\t🦿\nmedical_symbol\t⚕\nmegaphone\t📣\nmelon\t🍈\nmemo\t📝\nmen_with_bunny_ears\t👯\u200D♂\uFE0F\nmen_wrestling\t🤼\u200D♂\uFE0F\nmenorah\t🕎\nmen’s_room\t🚹\nmermaid\t🧜\u200D♀\uFE0F\nmermaid_dark_skin_tone\t🧜🏿\u200D♀\uFE0F\nmermaid_light_skin_tone\t🧜🏻\u200D♀\uFE0F\nmermaid_medium-dark_skin_tone\t🧜🏾\u200D♀\uFE0F\nmermaid_medium-light_skin_tone\t🧜🏼\u200D♀\uFE0F\nmermaid_medium_skin_tone\t🧜🏽\u200D♀\uFE0F\nmerman\t🧜\u200D♂\uFE0F\nmerman_dark_skin_tone\t🧜🏿\u200D♂\uFE0F\nmerman_light_skin_tone\t🧜🏻\u200D♂\uFE0F\nmerman_medium-dark_skin_tone\t🧜🏾\u200D♂\uFE0F\nmerman_medium-light_skin_tone\t🧜🏼\u200D♂\uFE0F\nmerman_medium_skin_tone\t🧜🏽\u200D♂\uFE0F\nmerperson\t🧜\nmerperson_dark_skin_tone\t🧜🏿\nmerperson_light_skin_tone\t🧜🏻\nmerperson_medium-dark_skin_tone\t🧜🏾\nmerperson_medium-light_skin_tone\t🧜🏼\nmerperson_medium_skin_tone\t🧜🏽\nmetro\t🚇\nmicrobe\t🦠\nmicrophone\t🎤\nmicroscope\t🔬\nmiddle_finger\t🖕\nmiddle_finger_dark_skin_tone\t🖕🏿\nmiddle_finger_light_skin_tone\t🖕🏻\nmiddle_finger_medium-dark_skin_tone\t🖕🏾\nmiddle_finger_medium-light_skin_tone\t🖕🏼\nmiddle_finger_medium_skin_tone\t🖕🏽\nmilitary_medal\t🎖\nmilky_way\t🌌\nminibus\t🚐\nmoai\t🗿\nmobile_phone\t📱\nmobile_phone_off\t📴\nmobile_phone_with_arrow\t📲\nmoney-mouth_face\t🤑\nmoney_bag\t💰\nmoney_with_wings\t💸\nmonkey\t🐒\nmonkey_face\t🐵\nmonorail\t🚝\nmoon_cake\t🥮\nmoon_viewing_ceremony\t🎑\nmosque\t🕌\nmosquito\t🦟\nmotor_boat\t🛥\nmotor_scooter\t🛵\nmotorcycle\t🏍\nmotorized_wheelchair\t🦼\nmotorway\t🛣\nmount_fuji\t🗻\nmountain\t⛰\nmountain_cableway\t🚠\nmountain_railway\t🚞\nmouse\t🐭\nmouse_face\t🐭\nmouth\t👄\nmovie_camera\t🎥\nmushroom\t🍄\nmusical_keyboard\t🎹\nmusical_note\t🎵\nmusical_notes\t🎶\nmusical_score\t🎼\nmuted_speaker\t🔇\nmedium_light_skin_tone\t🏼\nmedium_skin_tone\t🏽\nmedium_dark_skin_tone\t🏾\nmega\t📣\nm\tⓂ\nmailbox_closed\t📪\nmailbox\t📫\nmassage\t💆\nmask\t😷\nmuscle\t💪\nmortar_board\t🎓\nmag\t🔍\nmahjong\t🀄\nman_in_business_suit_levitating\t🕴\nman_with_gua_pi_mao\t👲\nman_with_turban\t👳\nmans_shoe\t👞\nmenorah_with_nine_branches\t🕎\nmens\t🚹\nminidisc\t💽\nmoney__mouth_face\t🤑\nmoneybag\t💰\nmountain_bicyclist\t🚵\nmouse2\t🐁\nmoyai\t🗿\nmailbox_with_no_mail\t📭\nmailbox_with_mail\t📬\nmag_right\t🔎\nmute\t🔇\nmoon\t🌔",
  "new_button\t🆕\nng_button\t🆖\nnamibia\t🇳🇦\nnauru\t🇳🇷\nnepal\t🇳🇵\nnetherlands\t🇳🇱\nnew_caledonia\t🇳🇨\nnew_zealand\t🇳🇿\nnicaragua\t🇳🇮\nniger\t🇳🇪\nnigeria\t🇳🇬\nniue\t🇳🇺\nnorfolk_island\t🇳🇫\nnorth_korea\t🇰🇵\nnorthern_mariana_islands\t🇲🇵\nnorway\t🇳🇴\nnail_polish\t💅\nnail_polish_dark_skin_tone\t💅🏿\nnail_polish_light_skin_tone\t💅🏻\nnail_polish_medium-dark_skin_tone\t💅🏾\nnail_polish_medium-light_skin_tone\t💅🏼\nnail_polish_medium_skin_tone\t💅🏽\nname_badge\t📛\nnational_park\t🏞\nnauseated_face\t🤢\nnazar_amulet\t🧿\nnecktie\t👔\nnerd_face\t🤓\nneutral_face\t😐\nnew_moon\t🌑\nnew_moon_face\t🌚\nnewspaper\t📰\nnext_track_button\t⏭\nnight_with_stars\t🌃\nnine-thirty\t🕤\nnine_o’clock\t🕘\nno_bicycles\t🚳\nno_entry\t⛔\nno_littering\t🚯\nno_mobile_phones\t📵\nno_one_under_eighteen\t🔞\nno_pedestrians\t🚷\nno_smoking\t🚭\nnon-potable_water\t🚱\nnose\t👃\nnose_dark_skin_tone\t👃🏿\nnose_light_skin_tone\t👃🏻\nnose_medium-dark_skin_tone\t👃🏾\nnose_medium-light_skin_tone\t👃🏼\nnose_medium_skin_tone\t👃🏽\nnotebook\t📓\nnotebook_with_decorative_cover\t📔\nnut_and_bolt\t🔩\nno_bell\t🔕\nno_good\t🙅\nno_mouth\t😶\nnine\t9\uFE0F\u20E3\nnotes\t🎶\nnail_care\t💅\nnegative_squared_cross_mark\t❎\nnew_moon_with_face\t🌚\nno_entry_sign\t🚫\nnon__potable_water\t🚱\nnew\t🆕\nng\t🆖",
  "ok_button\t🆗\nok_hand\t👌\nok_hand_dark_skin_tone\t👌🏿\nok_hand_light_skin_tone\t👌🏻\nok_hand_medium-dark_skin_tone\t👌🏾\nok_hand_medium-light_skin_tone\t👌🏼\nok_hand_medium_skin_tone\t👌🏽\non!_arrow\t🔛\no_button_(blood_type)\t🅾\noman\t🇴🇲\nophiuchus\t⛎\noctopus\t🐙\noden\t🍢\noffice_building\t🏢\nogre\t👹\noil_drum\t🛢\nold_key\t🗝\nold_man\t👴\nold_man_dark_skin_tone\t👴🏿\nold_man_light_skin_tone\t👴🏻\nold_man_medium-dark_skin_tone\t👴🏾\nold_man_medium-light_skin_tone\t👴🏼\nold_man_medium_skin_tone\t👴🏽\nold_woman\t👵\nold_woman_dark_skin_tone\t👵🏿\nold_woman_light_skin_tone\t👵🏻\nold_woman_medium-dark_skin_tone\t👵🏾\nold_woman_medium-light_skin_tone\t👵🏼\nold_woman_medium_skin_tone\t👵🏽\nolder_adult\t🧓\nolder_adult_dark_skin_tone\t🧓🏿\nolder_adult_light_skin_tone\t🧓🏻\nolder_adult_medium-dark_skin_tone\t🧓🏾\nolder_adult_medium-light_skin_tone\t🧓🏼\nolder_adult_medium_skin_tone\t🧓🏽\nom\t🕉\noncoming_automobile\t🚘\noncoming_bus\t🚍\noncoming_fist\t👊\noncoming_fist_dark_skin_tone\t👊🏿\noncoming_fist_light_skin_tone\t👊🏻\noncoming_fist_medium-dark_skin_tone\t👊🏾\noncoming_fist_medium-light_skin_tone\t👊🏼\noncoming_fist_medium_skin_tone\t👊🏽\noncoming_police_car\t🚔\noncoming_taxi\t🚖\none-piece_swimsuit\t🩱\none-thirty\t🕜\none_o’clock\t🕐\nonion\t🧅\nopen_book\t📖\nopen_file_folder\t📂\nopen_hands\t👐\nopen_hands_dark_skin_tone\t👐🏿\nopen_hands_light_skin_tone\t👐🏻\nopen_hands_medium-dark_skin_tone\t👐🏾\nopen_hands_medium-light_skin_tone\t👐🏼\nopen_hands_medium_skin_tone\t👐🏽\nopen_mailbox_with_lowered_flag\t📭\nopen_mailbox_with_raised_flag\t📬\noptical_disk\t💿\norange_book\t📙\norange_circle\t🟠\norange_heart\t🧡\norange_square\t🟧\norangutan\t🦧\northodox_cross\t☦\notter\t🦦\noutbox_tray\t📤\nowl\t🦉\nox\t🐂\noyster\t🦪\nok_woman\t🙆\nopen_mouth\t😮\no\t⭕\none\t1\uFE0F\u20E3\no2\t🅾\noffice\t🏢\nolder_man\t👴\nolder_woman\t👵\nom_symbol\t🕉\non\t🔛\nok\t🆗\nocean\t🌊",
  "p_button\t🅿\npakistan\t🇵🇰\npalau\t🇵🇼\npalestinian_territories\t🇵🇸\npanama\t🇵🇦\npapua_new_guinea\t🇵🇬\nparaguay\t🇵🇾\nperu\t🇵🇪\nphilippines\t🇵🇭\npisces\t♓\npitcairn_islands\t🇵🇳\npoland\t🇵🇱\nportugal\t🇵🇹\npuerto_rico\t🇵🇷\npackage\t📦\npage_facing_up\t📄\npage_with_curl\t📃\npager\t📟\npaintbrush\t🖌\npalm_tree\t🌴\npalms_up_together\t🤲\npalms_up_together_dark_skin_tone\t🤲🏿\npalms_up_together_light_skin_tone\t🤲🏻\npalms_up_together_medium-dark_skin_tone\t🤲🏾\npalms_up_together_medium-light_skin_tone\t🤲🏼\npalms_up_together_medium_skin_tone\t🤲🏽\npancakes\t🥞\npanda_face\t🐼\npaperclip\t📎\nparrot\t🦜\npart_alternation_mark\t〽\nparty_popper\t🎉\npartying_face\t🥳\npassenger_ship\t🛳\npassport_control\t🛂\npause_button\t⏸\npaw_prints\t🐾\npeace_symbol\t☮\npeach\t🍑\npeacock\t🦚\npeanuts\t🥜\npear\t🍐\npen\t🖊\npencil\t📝\npenguin\t🐧\npensive_face\t😔\npeople_holding_hands\t🧑\u200D🤝\u200D🧑\npeople_with_bunny_ears\t👯\npeople_wrestling\t🤼\nperforming_arts\t🎭\npersevering_face\t😣\nperson_biking\t🚴\nperson_biking_dark_skin_tone\t🚴🏿\nperson_biking_light_skin_tone\t🚴🏻\nperson_biking_medium-dark_skin_tone\t🚴🏾\nperson_biking_medium-light_skin_tone\t🚴🏼\nperson_biking_medium_skin_tone\t🚴🏽\nperson_bouncing_ball\t⛹\nperson_bouncing_ball_dark_skin_tone\t⛹🏿\nperson_bouncing_ball_light_skin_tone\t⛹🏻\nperson_bouncing_ball_medium-dark_skin_tone\t⛹🏾\nperson_bouncing_ball_medium-light_skin_tone\t⛹🏼\nperson_bouncing_ball_medium_skin_tone\t⛹🏽\nperson_bowing\t🙇\nperson_bowing_dark_skin_tone\t🙇🏿\nperson_bowing_light_skin_tone\t🙇🏻\nperson_bowing_medium-dark_skin_tone\t🙇🏾\nperson_bowing_medium-light_skin_tone\t🙇🏼\nperson_bowing_medium_skin_tone\t🙇🏽\nperson_cartwheeling\t🤸\nperson_cartwheeling_dark_skin_tone\t🤸🏿\nperson_cartwheeling_light_skin_tone\t🤸🏻\nperson_cartwheeling_medium-dark_skin_tone\t🤸🏾\nperson_cartwheeling_medium-light_skin_tone\t🤸🏼\nperson_cartwheeling_medium_skin_tone\t🤸🏽\nperson_climbing\t🧗\nperson_climbing_dark_skin_tone\t🧗🏿\nperson_climbing_light_skin_tone\t🧗🏻\nperson_climbing_medium-dark_skin_tone\t🧗🏾\nperson_climbing_medium-light_skin_tone\t🧗🏼\nperson_climbing_medium_skin_tone\t🧗🏽\nperson_facepalming\t🤦\nperson_facepalming_dark_skin_tone\t🤦🏿\nperson_facepalming_light_skin_tone\t🤦🏻\nperson_facepalming_medium-dark_skin_tone\t🤦🏾\nperson_facepalming_medium-light_skin_tone\t🤦🏼\nperson_facepalming_medium_skin_tone\t🤦🏽\nperson_fencing\t🤺\nperson_frowning\t🙍\nperson_frowning_dark_skin_tone\t🙍🏿\nperson_frowning_light_skin_tone\t🙍🏻\nperson_frowning_medium-dark_skin_tone\t🙍🏾\nperson_frowning_medium-light_skin_tone\t🙍🏼\nperson_frowning_medium_skin_tone\t🙍🏽\nperson_gesturing_no\t🙅\nperson_gesturing_no_dark_skin_tone\t🙅🏿\nperson_gesturing_no_light_skin_tone\t🙅🏻\nperson_gesturing_no_medium-dark_skin_tone\t🙅🏾\nperson_gesturing_no_medium-light_skin_tone\t🙅🏼\nperson_gesturing_no_medium_skin_tone\t🙅🏽\nperson_gesturing_ok\t🙆\nperson_gesturing_ok_dark_skin_tone\t🙆🏿\nperson_gesturing_ok_light_skin_tone\t🙆🏻\nperson_gesturing_ok_medium-dark_skin_tone\t🙆🏾\nperson_gesturing_ok_medium-light_skin_tone\t🙆🏼\nperson_gesturing_ok_medium_skin_tone\t🙆🏽\nperson_getting_haircut\t💇\nperson_getting_haircut_dark_skin_tone\t💇🏿\nperson_getting_haircut_light_skin_tone\t💇🏻\nperson_getting_haircut_medium-dark_skin_tone\t💇🏾\nperson_getting_haircut_medium-light_skin_tone\t💇🏼\nperson_getting_haircut_medium_skin_tone\t💇🏽\nperson_getting_massage\t💆\nperson_getting_massage_dark_skin_tone\t💆🏿\nperson_getting_massage_light_skin_tone\t💆🏻\nperson_getting_massage_medium-dark_skin_tone\t💆🏾\nperson_getting_massage_medium-light_skin_tone\t💆🏼\nperson_getting_massage_medium_skin_tone\t💆🏽\nperson_golfing\t🏌\nperson_golfing_dark_skin_tone\t🏌🏿\nperson_golfing_light_skin_tone\t🏌🏻\nperson_golfing_medium-dark_skin_tone\t🏌🏾\nperson_golfing_medium-light_skin_tone\t🏌🏼\nperson_golfing_medium_skin_tone\t🏌🏽\nperson_in_bed\t🛌\nperson_in_bed_dark_skin_tone\t🛌🏿\nperson_in_bed_light_skin_tone\t🛌🏻\nperson_in_bed_medium-dark_skin_tone\t🛌🏾\nperson_in_bed_medium-light_skin_tone\t🛌🏼\nperson_in_bed_medium_skin_tone\t🛌🏽\nperson_in_lotus_position\t🧘\nperson_in_lotus_position_dark_skin_tone\t🧘🏿\nperson_in_lotus_position_light_skin_tone\t🧘🏻\nperson_in_lotus_position_medium-dark_skin_tone\t🧘🏾\nperson_in_lotus_position_medium-light_skin_tone\t🧘🏼\nperson_in_lotus_position_medium_skin_tone\t🧘🏽\nperson_in_steamy_room\t🧖\nperson_in_steamy_room_dark_skin_tone\t🧖🏿\nperson_in_steamy_room_light_skin_tone\t🧖🏻\nperson_in_steamy_room_medium-dark_skin_tone\t🧖🏾\nperson_in_steamy_room_medium-light_skin_tone\t🧖🏼\nperson_in_steamy_room_medium_skin_tone\t🧖🏽\nperson_juggling\t🤹\nperson_juggling_dark_skin_tone\t🤹🏿\nperson_juggling_light_skin_tone\t🤹🏻\nperson_juggling_medium-dark_skin_tone\t🤹🏾\nperson_juggling_medium-light_skin_tone\t🤹🏼\nperson_juggling_medium_skin_tone\t🤹🏽\nperson_kneeling\t🧎\nperson_lifting_weights\t🏋\nperson_lifting_weights_dark_skin_tone\t🏋🏿\nperson_lifting_weights_light_skin_tone\t🏋🏻\nperson_lifting_weights_medium-dark_skin_tone\t🏋🏾\nperson_lifting_weights_medium-light_skin_tone\t🏋🏼\nperson_lifting_weights_medium_skin_tone\t🏋🏽\nperson_mountain_biking\t🚵\nperson_mountain_biking_dark_skin_tone\t🚵🏿\nperson_mountain_biking_light_skin_tone\t🚵🏻\nperson_mountain_biking_medium-dark_skin_tone\t🚵🏾\nperson_mountain_biking_medium-light_skin_tone\t🚵🏼\nperson_mountain_biking_medium_skin_tone\t🚵🏽\nperson_playing_handball\t🤾\nperson_playing_handball_dark_skin_tone\t🤾🏿\nperson_playing_handball_light_skin_tone\t🤾🏻\nperson_playing_handball_medium-dark_skin_tone\t🤾🏾\nperson_playing_handball_medium-light_skin_tone\t🤾🏼\nperson_playing_handball_medium_skin_tone\t🤾🏽\nperson_playing_water_polo\t🤽\nperson_playing_water_polo_dark_skin_tone\t🤽🏿\nperson_playing_water_polo_light_skin_tone\t🤽🏻\nperson_playing_water_polo_medium-dark_skin_tone\t🤽🏾\nperson_playing_water_polo_medium-light_skin_tone\t🤽🏼\nperson_playing_water_polo_medium_skin_tone\t🤽🏽\nperson_pouting\t🙎\nperson_pouting_dark_skin_tone\t🙎🏿\nperson_pouting_light_skin_tone\t🙎🏻\nperson_pouting_medium-dark_skin_tone\t🙎🏾\nperson_pouting_medium-light_skin_tone\t🙎🏼\nperson_pouting_medium_skin_tone\t🙎🏽\nperson_raising_hand\t🙋\nperson_raising_hand_dark_skin_tone\t🙋🏿\nperson_raising_hand_light_skin_tone\t🙋🏻\nperson_raising_hand_medium-dark_skin_tone\t🙋🏾\nperson_raising_hand_medium-light_skin_tone\t🙋🏼\nperson_raising_hand_medium_skin_tone\t🙋🏽\nperson_rowing_boat\t🚣\nperson_rowing_boat_dark_skin_tone\t🚣🏿\nperson_rowing_boat_light_skin_tone\t🚣🏻\nperson_rowing_boat_medium-dark_skin_tone\t🚣🏾\nperson_rowing_boat_medium-light_skin_tone\t🚣🏼\nperson_rowing_boat_medium_skin_tone\t🚣🏽\nperson_running\t🏃\nperson_running_dark_skin_tone\t🏃🏿\nperson_running_light_skin_tone\t🏃🏻\nperson_running_medium-dark_skin_tone\t🏃🏾\nperson_running_medium-light_skin_tone\t🏃🏼\nperson_running_medium_skin_tone\t🏃🏽\nperson_shrugging\t🤷\nperson_shrugging_dark_skin_tone\t🤷🏿\nperson_shrugging_light_skin_tone\t🤷🏻\nperson_shrugging_medium-dark_skin_tone\t🤷🏾\nperson_shrugging_medium-light_skin_tone\t🤷🏼\nperson_shrugging_medium_skin_tone\t🤷🏽\nperson_standing\t🧍\nperson_surfing\t🏄\nperson_surfing_dark_skin_tone\t🏄🏿\nperson_surfing_light_skin_tone\t🏄🏻\nperson_surfing_medium-dark_skin_tone\t🏄🏾\nperson_surfing_medium-light_skin_tone\t🏄🏼\nperson_surfing_medium_skin_tone\t🏄🏽\nperson_swimming\t🏊\nperson_swimming_dark_skin_tone\t🏊🏿\nperson_swimming_light_skin_tone\t🏊🏻\nperson_swimming_medium-dark_skin_tone\t🏊🏾\nperson_swimming_medium-light_skin_tone\t🏊🏼\nperson_swimming_medium_skin_tone\t🏊🏽\nperson_taking_bath\t🛀\nperson_taking_bath_dark_skin_tone\t🛀🏿\nperson_taking_bath_light_skin_tone\t🛀🏻\nperson_taking_bath_medium-dark_skin_tone\t🛀🏾\nperson_taking_bath_medium-light_skin_tone\t🛀🏼\nperson_taking_bath_medium_skin_tone\t🛀🏽\nperson_tipping_hand\t💁\nperson_tipping_hand_dark_skin_tone\t💁🏿\nperson_tipping_hand_light_skin_tone\t💁🏻\nperson_tipping_hand_medium-dark_skin_tone\t💁🏾\nperson_tipping_hand_medium-light_skin_tone\t💁🏼\nperson_tipping_hand_medium_skin_tone\t💁🏽\nperson_walking\t🚶\nperson_walking_dark_skin_tone\t🚶🏿\nperson_walking_light_skin_tone\t🚶🏻\nperson_walking_medium-dark_skin_tone\t🚶🏾\nperson_walking_medium-light_skin_tone\t🚶🏼\nperson_walking_medium_skin_tone\t🚶🏽\nperson_wearing_turban\t👳\nperson_wearing_turban_dark_skin_tone\t👳🏿\nperson_wearing_turban_light_skin_tone\t👳🏻\nperson_wearing_turban_medium-dark_skin_tone\t👳🏾\nperson_wearing_turban_medium-light_skin_tone\t👳🏼\nperson_wearing_turban_medium_skin_tone\t👳🏽\npetri_dish\t🧫\npick\t⛏\npie\t🥧\npig\t🐷\npig_face\t🐷\npig_nose\t🐽\npile_of_poo\t💩\npill\t💊\npinching_hand\t🤏\npine_decoration\t🎍\npineapple\t🍍\nping_pong\t🏓\npirate_flag\t🏴\u200D☠\uFE0F\npistol\t🔫\npizza\t🍕\nplace_of_worship\t🛐\nplay_button\t▶\nplay_or_pause_button\t⏯\npleading_face\t🥺\npolice_car\t🚓\npolice_car_light\t🚨\npolice_officer\t👮\npolice_officer_dark_skin_tone\t👮🏿\npolice_officer_light_skin_tone\t👮🏻\npolice_officer_medium-dark_skin_tone\t👮🏾\npolice_officer_medium-light_skin_tone\t👮🏼\npolice_officer_medium_skin_tone\t👮🏽\npoodle\t🐩\npool_8_ball\t🎱\npopcorn\t🍿\npost_office\t🏣\npostal_horn\t📯\npostbox\t📮\npot_of_food\t🍲\npotable_water\t🚰\npotato\t🥔\npoultry_leg\t🍗\npound_banknote\t💷\npouting_cat_face\t😾\npouting_face\t😡\nprayer_beads\t📿\npregnant_woman\t🤰\npregnant_woman_dark_skin_tone\t🤰🏿\npregnant_woman_light_skin_tone\t🤰🏻\npregnant_woman_medium-dark_skin_tone\t🤰🏾\npregnant_woman_medium-light_skin_tone\t🤰🏼\npregnant_woman_medium_skin_tone\t🤰🏽\npretzel\t🥨\nprobing_cane\t🦯\nprince\t🤴\nprince_dark_skin_tone\t🤴🏿\nprince_light_skin_tone\t🤴🏻\nprince_medium-dark_skin_tone\t🤴🏾\nprince_medium-light_skin_tone\t🤴🏼\nprince_medium_skin_tone\t🤴🏽\nprincess\t👸\nprincess_dark_skin_tone\t👸🏿\nprincess_light_skin_tone\t👸🏻\nprincess_medium-dark_skin_tone\t👸🏾\nprincess_medium-light_skin_tone\t👸🏼\nprincess_medium_skin_tone\t👸🏽\nprinter\t🖨\nprohibited\t🚫\npurple_circle\t🟣\npurple_heart\t💜\npurple_square\t🟪\npurse\t👛\npushpin\t📌\npound\t💷\nphone\t☎\npunch\t👊\nparking\t🅿\npencil2\t✏\npensive\t😔\npersevere\t😣\nperson_with_ball\t⛹\nperson_with_blond_hair\t👱\npray\t🙏\nperson_with_pouting_face\t🙎\npig2\t🐖\npoop\t💩\npouch\t👝\npouting_cat\t😾\nput_litter_in_its_place\t🚮\npartly_sunny\t⛅\npoint_down\t👇\npoint_left\t👈\npoint_right\t👉\npoint_up_2\t👆\npoint_up\t☝",
  "qatar\t🇶🇦\nquestion_mark\t❓\nquestion\t❓",
  "romania\t🇷🇴\nrussia\t🇷🇺\nrwanda\t🇷🇼\nréunion\t🇷🇪\nrabbit\t🐰\nrabbit_face\t🐰\nraccoon\t🦝\nracing_car\t🏎\nradio\t📻\nradio_button\t🔘\nradioactive\t☢\nrailway_car\t🚃\nrailway_track\t🛤\nrainbow\t🌈\nrainbow_flag\t🏳\uFE0F\u200D🌈\nraised_back_of_hand\t🤚\nraised_back_of_hand_dark_skin_tone\t🤚🏿\nraised_back_of_hand_light_skin_tone\t🤚🏻\nraised_back_of_hand_medium-dark_skin_tone\t🤚🏾\nraised_back_of_hand_medium-light_skin_tone\t🤚🏼\nraised_back_of_hand_medium_skin_tone\t🤚🏽\nraised_fist\t✊\nraised_fist_dark_skin_tone\t✊🏿\nraised_fist_light_skin_tone\t✊🏻\nraised_fist_medium-dark_skin_tone\t✊🏾\nraised_fist_medium-light_skin_tone\t✊🏼\nraised_fist_medium_skin_tone\t✊🏽\nraised_hand\t✋\nraised_hand_dark_skin_tone\t✋🏿\nraised_hand_light_skin_tone\t✋🏻\nraised_hand_medium-dark_skin_tone\t✋🏾\nraised_hand_medium-light_skin_tone\t✋🏼\nraised_hand_medium_skin_tone\t✋🏽\nraising_hands\t🙌\nraising_hands_dark_skin_tone\t🙌🏿\nraising_hands_light_skin_tone\t🙌🏻\nraising_hands_medium-dark_skin_tone\t🙌🏾\nraising_hands_medium-light_skin_tone\t🙌🏼\nraising_hands_medium_skin_tone\t🙌🏽\nram\t🐏\nrat\t🐀\nrazor\t🪒\nringed_planet\t🪐\nreceipt\t🧾\nrecord_button\t⏺\nrecycling_symbol\t♻\nred_apple\t🍎\nred_circle\t🔴\nred_envelope\t🧧\nred_hair\t🦰\nred-haired_man\t👨\u200D🦰\nred-haired_woman\t👩\u200D🦰\nred_heart\t❤\nred_paper_lantern\t🏮\nred_square\t🟥\nred_triangle_pointed_down\t🔻\nred_triangle_pointed_up\t🔺\nregistered\t®\nrelieved_face\t😌\nreminder_ribbon\t🎗\nrepeat_button\t🔁\nrepeat_single_button\t🔂\nrescue_worker’s_helmet\t⛑\nrestroom\t🚻\nreverse_button\t◀\nrevolving_hearts\t💞\nrhinoceros\t🦏\nribbon\t🎀\nrice_ball\t🍙\nrice_cracker\t🍘\nright-facing_fist\t🤜\nright-facing_fist_dark_skin_tone\t🤜🏿\nright-facing_fist_light_skin_tone\t🤜🏻\nright-facing_fist_medium-dark_skin_tone\t🤜🏾\nright-facing_fist_medium-light_skin_tone\t🤜🏼\nright-facing_fist_medium_skin_tone\t🤜🏽\nright_anger_bubble\t🗯\nright_arrow\t➡\nright_arrow_curving_down\t⤵\nright_arrow_curving_left\t↩\nright_arrow_curving_up\t⤴\nring\t💍\nroasted_sweet_potato\t🍠\nrobot_face\t🤖\nrocket\t🚀\nroll_of_paper\t🧻\nrolled-up_newspaper\t🗞\nroller_coaster\t🎢\nrolling_on_the_floor_laughing\t🤣\nrooster\t🐓\nrose\t🌹\nrosette\t🏵\nround_pushpin\t📍\nrugby_football\t🏉\nrunning_shirt\t🎽\nrunning_shoe\t👟\nregional_indicator_symbol_letter_a\t🇦\nregional_indicator_symbol_letter_b\t🇧\nregional_indicator_symbol_letter_c\t🇨\nregional_indicator_symbol_letter_d\t🇩\nregional_indicator_symbol_letter_e\t🇪\nregional_indicator_symbol_letter_f\t🇫\nregional_indicator_symbol_letter_g\t🇬\nregional_indicator_symbol_letter_h\t🇭\nregional_indicator_symbol_letter_i\t🇮\nregional_indicator_symbol_letter_j\t🇯\nregional_indicator_symbol_letter_k\t🇰\nregional_indicator_symbol_letter_l\t🇱\nregional_indicator_symbol_letter_m\t🇲\nregional_indicator_symbol_letter_n\t🇳\nregional_indicator_symbol_letter_o\t🇴\nregional_indicator_symbol_letter_p\t🇵\nregional_indicator_symbol_letter_q\t🇶\nregional_indicator_symbol_letter_r\t🇷\nregional_indicator_symbol_letter_s\t🇸\nregional_indicator_symbol_letter_t\t🇹\nregional_indicator_symbol_letter_u\t🇺\nregional_indicator_symbol_letter_v\t🇻\nregional_indicator_symbol_letter_w\t🇼\nregional_indicator_symbol_letter_x\t🇽\nregional_indicator_symbol_letter_y\t🇾\nregional_indicator_symbol_letter_z\t🇿\nred_car\t🚗\nrewind\t⏪\nrecycle\t♻\nrepeat\t🔁\nrepeat_one\t🔂\nrice\t🍚\nraising_hand\t🙋\nracehorse\t🐎\nrice_scene\t🎑\nraised_hands\t🙌\nrotating_light\t🚨\nrage\t😡\nrabbit2\t🐇\nracing_motorcycle\t🏍\nradioactive_sign\t☢\nraised_hand_with_fingers_splayed\t🖐\nraised_hand_with_part_between_middle_and_ring_fingers\t🖖\nrelieved\t😌\nreversed_hand_with_middle_finger_extended\t🖕\nrobot\t🤖\nrolled__up_newspaper\t🗞\nrowboat\t🚣\nrunner\t🏃\nrunning\t🏃\nrunning_shirt_with_sash\t🎽\nramen\t🍜\nrelaxed\t☺\nregional_indicator_a\t🇦\nregional_indicator_b\t🇧\nregional_indicator_c\t🇨\nregional_indicator_d\t🇩\nregional_indicator_e\t🇪\nregional_indicator_f\t🇫\nregional_indicator_g\t🇬\nregional_indicator_h\t🇭\nregional_indicator_i\t🇮\nregional_indicator_j\t🇯\nregional_indicator_k\t🇰\nregional_indicator_l\t🇱\nregional_indicator_m\t🇲\nregional_indicator_n\t🇳\nregional_indicator_o\t🇴\nregional_indicator_p\t🇵\nregional_indicator_q\t🇶\nregional_indicator_r\t🇷\nregional_indicator_s\t🇸\nregional_indicator_t\t🇹\nregional_indicator_u\t🇺\nregional_indicator_v\t🇻\nregional_indicator_w\t🇼\nregional_indicator_x\t🇽\nregional_indicator_y\t🇾\nregional_indicator_z\t🇿",
  "soon_arrow\t🔜\nsos_button\t🆘\nsagittarius\t♐\nsamoa\t🇼🇸\nsan_marino\t🇸🇲\nsanta_claus\t🎅\nsanta_claus_dark_skin_tone\t🎅🏿\nsanta_claus_light_skin_tone\t🎅🏻\nsanta_claus_medium-dark_skin_tone\t🎅🏾\nsanta_claus_medium-light_skin_tone\t🎅🏼\nsanta_claus_medium_skin_tone\t🎅🏽\nsaudi_arabia\t🇸🇦\nscorpio\t♏\nscotland\t🏴󠁧󠁢󠁳󠁣󠁴󠁿\nsenegal\t🇸🇳\nserbia\t🇷🇸\nseychelles\t🇸🇨\nsierra_leone\t🇸🇱\nsingapore\t🇸🇬\nsint_maarten\t🇸🇽\nslovakia\t🇸🇰\nslovenia\t🇸🇮\nsolomon_islands\t🇸🇧\nsomalia\t🇸🇴\nsouth_africa\t🇿🇦\nsouth_georgia_&_south_sandwich_islands\t🇬🇸\nsouth_korea\t🇰🇷\nsouth_sudan\t🇸🇸\nspain\t🇪🇸\nsri_lanka\t🇱🇰\nst._barthélemy\t🇧🇱\nst._helena\t🇸🇭\nst._kitts_&_nevis\t🇰🇳\nst._lucia\t🇱🇨\nst._martin\t🇲🇫\nst._pierre_&_miquelon\t🇵🇲\nst._vincent_&_grenadines\t🇻🇨\nstatue_of_liberty\t🗽\nsudan\t🇸🇩\nsuriname\t🇸🇷\nsvalbard_&_jan_mayen\t🇸🇯\nswaziland\t🇸🇿\nsweden\t🇸🇪\nswitzerland\t🇨🇭\nsyria\t🇸🇾\nsão_tomé_&_príncipe\t🇸🇹\nsad_but_relieved_face\t😥\nsafety_pin\t🧷\nsafety_vest\t🦺\nsalt\t🧂\nsailboat\t⛵\nsake\t🍶\nsandwich\t🥪\nsari\t🥻\nsatellite\t📡\nsatellite_antenna\t📡\nsauropod\t🦕\nsaxophone\t🎷\nscarf\t🧣\nschool\t🏫\nschool_backpack\t🎒\nscissors\t✂\nscorpion\t🦂\nscroll\t📜\nseat\t💺\nsee-no-evil_monkey\t🙈\nseedling\t🌱\nselfie\t🤳\nselfie_dark_skin_tone\t🤳🏿\nselfie_light_skin_tone\t🤳🏻\nselfie_medium-dark_skin_tone\t🤳🏾\nselfie_medium-light_skin_tone\t🤳🏼\nselfie_medium_skin_tone\t🤳🏽\nservice_dog\t🐕\u200D🦺\nseven-thirty\t🕢\nseven_o’clock\t🕖\nshallow_pan_of_food\t🥘\nshamrock\t☘\nshark\t🦈\nshaved_ice\t🍧\nsheaf_of_rice\t🌾\nshield\t🛡\nshinto_shrine\t⛩\nship\t🚢\nshooting_star\t🌠\nshopping_bags\t🛍\nshopping_cart\t🛒\nshortcake\t🍰\nshorts\t🩳\nshower\t🚿\nshrimp\t🦐\nshuffle_tracks_button\t🔀\nshushing_face\t🤫\nsign_of_the_horns\t🤘\nsign_of_the_horns_dark_skin_tone\t🤘🏿\nsign_of_the_horns_light_skin_tone\t🤘🏻\nsign_of_the_horns_medium-dark_skin_tone\t🤘🏾\nsign_of_the_horns_medium-light_skin_tone\t🤘🏼\nsign_of_the_horns_medium_skin_tone\t🤘🏽\nsix-thirty\t🕡\nsix_o’clock\t🕕\nskateboard\t🛹\nskier\t⛷\nskis\t🎿\nskull\t💀\nskull_and_crossbones\t☠\nskunk\t🦨\nsled\t🛷\nsleeping_face\t😴\nsleepy_face\t😪\nslightly_frowning_face\t🙁\nslightly_smiling_face\t🙂\nslot_machine\t🎰\nsloth\t🦥\nsmall_airplane\t🛩\nsmall_blue_diamond\t🔹\nsmall_orange_diamond\t🔸\nsmiling_cat_face_with_heart-eyes\t😻\nsmiling_face\t☺\nsmiling_face_with_halo\t😇\nsmiling_face_with_3_hearts\t🥰\nsmiling_face_with_heart-eyes\t😍\nsmiling_face_with_horns\t😈\nsmiling_face_with_smiling_eyes\t😊\nsmiling_face_with_sunglasses\t😎\nsmirking_face\t😏\nsnail\t🐌\nsnake\t🐍\nsneezing_face\t🤧\nsnow-capped_mountain\t🏔\nsnowboarder\t🏂\nsnowboarder_dark_skin_tone\t🏂🏿\nsnowboarder_light_skin_tone\t🏂🏻\nsnowboarder_medium-dark_skin_tone\t🏂🏾\nsnowboarder_medium-light_skin_tone\t🏂🏼\nsnowboarder_medium_skin_tone\t🏂🏽\nsnowflake\t❄\nsnowman\t☃\nsnowman_without_snow\t⛄\nsoap\t🧼\nsoccer_ball\t⚽\nsocks\t🧦\nsoftball\t🥎\nsoft_ice_cream\t🍦\nspade_suit\t♠\nspaghetti\t🍝\nsparkle\t❇\nsparkler\t🎇\nsparkles\t✨\nsparkling_heart\t💖\nspeak-no-evil_monkey\t🙊\nspeaker_high_volume\t🔊\nspeaker_low_volume\t🔈\nspeaker_medium_volume\t🔉\nspeaking_head\t🗣\nspeech_balloon\t💬\nspeedboat\t🚤\nspider\t🕷\nspider_web\t🕸\nspiral_calendar\t🗓\nspiral_notepad\t🗒\nspiral_shell\t🐚\nspoon\t🥄\nsponge\t🧽\nsport_utility_vehicle\t🚙\nsports_medal\t🏅\nspouting_whale\t🐳\nsquid\t🦑\nsquinting_face_with_tongue\t😝\nstadium\t🏟\nstar-struck\t🤩\nstar_and_crescent\t☪\nstar_of_david\t✡\nstation\t🚉\nsteaming_bowl\t🍜\nstethoscope\t🩺\nstop_button\t⏹\nstop_sign\t🛑\nstopwatch\t⏱\nstraight_ruler\t📏\nstrawberry\t🍓\nstudio_microphone\t🎙\nstuffed_flatbread\t🥙\nsun\t☀\nsun_behind_cloud\t⛅\nsun_behind_large_cloud\t🌥\nsun_behind_rain_cloud\t🌦\nsun_behind_small_cloud\t🌤\nsun_with_face\t🌞\nsunflower\t🌻\nsunglasses\t😎\nsunrise\t🌅\nsunrise_over_mountains\t🌄\nsunset\t🌇\nsuperhero\t🦸\nsupervillain\t🦹\nsushi\t🍣\nsuspension_railway\t🚟\nswan\t🦢\nsweat_droplets\t💦\nsynagogue\t🕍\nsyringe\t💉\nspace_invader\t👾\nsignal_strength\t📶\nspades\t♠\nsunny\t☀\nsmirk_cat\t😼\nsecret\t㊙\nsmall_red_triangle_down\t🔻\nscream\t😱\nsweat\t😓\nstuck_out_tongue\t😛\nstuck_out_tongue_closed_eyes\t😝\nstuck_out_tongue_winking_eye\t😜\nsanta\t🎅\nstar2\t🌟\nsmile_cat\t😸\nsymbols\t🔣\nsix\t6\uFE0F\u20E3\nseven\t7\uFE0F\u20E3\nsob\t😭\nshoe\t👞\nshit\t💩\nstew\t🍲\nsweet_potato\t🍠\nscales\t⚖\nschool_satchel\t🎒\nscorpius\t♏\nsee_no_evil\t🙈\nsheep\t🐑\nstars\t🌠\nsix_pointed_star\t🔯\nski\t🎿\nsleeping_accommodation\t🛌\nsleeping\t😴\nsleepy\t😪\nsleuth_or_spy\t🕵\nsmiley_cat\t😺\nsmiling_imp\t😈\nsmiley\t😃\nsweat_smile\t😅\nsmile\t😄\nsatisfied\t😆\nsmirk\t😏\nsmoking\t🚬\nsnow_capped_mountain\t🏔\nsoccer\t⚽\nsoon\t🔜\nspeak_no_evil\t🙊\nspeaker\t🔈\nsound\t🔉\nspeaking_head_in_silhouette\t🗣\nspiral_calendar_pad\t🗓\nspiral_note_pad\t🗒\nshell\t🐚\nsweat_drops\t💦\nsa\t🈂\nsos\t🆘\nsteam_locomotive\t🚂\nsurfer\t🏄\nswimmer\t🏊\nshirt\t👕\nsmall_red_triangle\t🔺\nscream_cat\t🙀\nstar\t⭐\nsandal\t👡",
  "t-rex\t🦖\ntop_arrow\t🔝\ntaiwan\t🇹🇼\ntajikistan\t🇹🇯\ntanzania\t🇹🇿\ntaurus\t♉\nthailand\t🇹🇭\ntimor-leste\t🇹🇱\ntogo\t🇹🇬\ntokelau\t🇹🇰\ntokyo_tower\t🗼\ntonga\t🇹🇴\ntrinidad_&_tobago\t🇹🇹\ntristan_da_cunha\t🇹🇦\ntunisia\t🇹🇳\nturkey\t🦃\nturkmenistan\t🇹🇲\nturks_&_caicos_islands\t🇹🇨\ntuvalu\t🇹🇻\nt-shirt\t👕\ntaco\t🌮\ntakeout_box\t🥡\ntanabata_tree\t🎋\ntangerine\t🍊\ntaxi\t🚕\nteacup_without_handle\t🍵\ntear-off_calendar\t📆\nteddy_bear\t🧸\ntelephone\t☎\ntelephone_receiver\t📞\ntelescope\t🔭\ntelevision\t📺\nten-thirty\t🕥\nten_o’clock\t🕙\ntennis\t🎾\ntent\t⛺\ntest_tube\t🧪\nthermometer\t🌡\nthinking_face\t🤔\nthought_balloon\t💭\nthread\t🧵\nthree-thirty\t🕞\nthree_o’clock\t🕒\nthumbs_down\t👎\nthumbs_down_dark_skin_tone\t👎🏿\nthumbs_down_light_skin_tone\t👎🏻\nthumbs_down_medium-dark_skin_tone\t👎🏾\nthumbs_down_medium-light_skin_tone\t👎🏼\nthumbs_down_medium_skin_tone\t👎🏽\nthumbs_up\t👍\nthumbs_up_dark_skin_tone\t👍🏿\nthumbs_up_light_skin_tone\t👍🏻\nthumbs_up_medium-dark_skin_tone\t👍🏾\nthumbs_up_medium-light_skin_tone\t👍🏼\nthumbs_up_medium_skin_tone\t👍🏽\nticket\t🎫\ntiger\t🐯\ntiger_face\t🐯\ntimer_clock\t⏲\ntired_face\t😫\ntoolbox\t🧰\ntoilet\t🚽\ntomato\t🍅\ntongue\t👅\ntooth\t🦷\ntop_hat\t🎩\ntornado\t🌪\ntrackball\t🖲\ntractor\t🚜\ntrade_mark\t™\ntrain\t🚋\ntram\t🚊\ntram_car\t🚋\ntriangular_flag\t🚩\ntriangular_ruler\t📐\ntrident_emblem\t🔱\ntrolleybus\t🚎\ntrophy\t🏆\ntropical_drink\t🍹\ntropical_fish\t🐠\ntrumpet\t🎺\ntulip\t🌷\ntumbler_glass\t🥃\nturtle\t🐢\ntwelve-thirty\t🕧\ntwelve_o’clock\t🕛\ntwo-hump_camel\t🐫\ntwo-thirty\t🕝\ntwo_hearts\t💕\ntwo_men_holding_hands\t👬\ntwo_o’clock\t🕑\ntwo_women_holding_hands\t👭\ntruck\t🚚\ntriumph\t😤\ntraffic_light\t🚥\nten\t🔟\ntwo\t2\uFE0F\u20E3\nthree\t3\uFE0F\u20E3\ntada\t🎉\ntshirt\t👕\ntable_tennis_paddle_and_ball\t🏓\ntea\t🍵\ntv\t📺\nthree_button_mouse\t🖱\nthumbsup\t👍\nthumbsdown\t👎\nthunder_cloud_and_rain\t⛈\ntiger2\t🐅\ntophat\t🎩\ntop\t🔝\ntm\t™\ntrain2\t🚆\ntriangular_flag_on_post\t🚩\ntrident\t🔱\ntwisted_rightwards_arrows\t🔀",
  "u.s._outlying_islands\t🇺🇲\nu.s._virgin_islands\t🇻🇮\nup!_button\t🆙\nuganda\t🇺🇬\nukraine\t🇺🇦\nunited_arab_emirates\t🇦🇪\nunited_kingdom\t🇬🇧\nunited_nations\t🇺🇳\nunited_states\t🇺🇸\nuruguay\t🇺🇾\nuzbekistan\t🇺🇿\numbrella\t☂\numbrella_on_ground\t⛱\numbrella_with_rain_drops\t☔\nunamused_face\t😒\nunicorn_face\t🦄\nunlocked\t🔓\nup-down_arrow\t↕\nup-left_arrow\t↖\nup-right_arrow\t↗\nup_arrow\t⬆\nupside-down_face\t🙃\nupwards_button\t🔼\nunderage\t🔞\nunlock\t🔓\nu5272\t🈹\nu5408\t🈴\nu55b6\t🈺\nu6307\t🈯\nu6708\t🈷\nu6709\t🈶\nu6e80\t🈵\nu7121\t🈚\nu7533\t🈸\nu7981\t🈲\nu7a7a\t🈳\nup\t🆙\nunamused\t😒\nupside__down_face\t🙃",
  "vs_button\t🆚\nvanuatu\t🇻🇺\nvatican_city\t🇻🇦\nvenezuela\t🇻🇪\nvietnam\t🇻🇳\nvirgo\t♍\nvampire\t🧛\nvampire_dark_skin_tone\t🧛🏿\nvampire_light_skin_tone\t🧛🏻\nvampire_medium-dark_skin_tone\t🧛🏾\nvampire_medium-light_skin_tone\t🧛🏼\nvampire_medium_skin_tone\t🧛🏽\nvertical_traffic_light\t🚦\nvibration_mode\t📳\nvictory_hand\t✌\nvictory_hand_dark_skin_tone\t✌🏿\nvictory_hand_light_skin_tone\t✌🏻\nvictory_hand_medium-dark_skin_tone\t✌🏾\nvictory_hand_medium-light_skin_tone\t✌🏼\nvictory_hand_medium_skin_tone\t✌🏽\nvideo_camera\t📹\nvideo_game\t🎮\nvideocassette\t📼\nviolin\t🎻\nvolcano\t🌋\nvolleyball\t🏐\nvulcan_salute\t🖖\nvulcan_salute_dark_skin_tone\t🖖🏿\nvulcan_salute_light_skin_tone\t🖖🏻\nvulcan_salute_medium-dark_skin_tone\t🖖🏾\nvulcan_salute_medium-light_skin_tone\t🖖🏼\nvulcan_salute_medium_skin_tone\t🖖🏽\nvs\t🆚\nv\t✌\nvhs\t📼",
  "wales\t🏴󠁧󠁢󠁷󠁬󠁳󠁿\nwallis_&_futuna\t🇼🇫\nwestern_sahara\t🇪🇭\nwaffle\t🧇\nwaning_crescent_moon\t🌘\nwaning_gibbous_moon\t🌖\nwarning\t⚠\nwastebasket\t🗑\nwatch\t⌚\nwater_buffalo\t🐃\nwater_closet\t🚾\nwater_wave\t🌊\nwatermelon\t🍉\nwaving_hand\t👋\nwaving_hand_dark_skin_tone\t👋🏿\nwaving_hand_light_skin_tone\t👋🏻\nwaving_hand_medium-dark_skin_tone\t👋🏾\nwaving_hand_medium-light_skin_tone\t👋🏼\nwaving_hand_medium_skin_tone\t👋🏽\nwavy_dash\t〰\nwaxing_crescent_moon\t🌒\nwaxing_gibbous_moon\t🌔\nweary_cat_face\t🙀\nweary_face\t😩\nwedding\t💒\nwhale\t🐳\nwheel_of_dharma\t☸\nwheelchair_symbol\t♿\nwhite_circle\t⚪\nwhite_exclamation_mark\t❕\nwhite_flag\t🏳\nwhite_flower\t💮\nwhite_hair\t🦳\nwhite-haired_man\t👨\u200D🦳\nwhite-haired_woman\t👩\u200D🦳\nwhite_heart\t🤍\nwhite_heavy_check_mark\t✅\nwhite_large_square\t⬜\nwhite_medium-small_square\t◽\nwhite_medium_square\t◻\nwhite_medium_star\t⭐\nwhite_question_mark\t❔\nwhite_small_square\t▫\nwhite_square_button\t🔳\nwilted_flower\t🥀\nwind_chime\t🎐\nwind_face\t🌬\nwine_glass\t🍷\nwinking_face\t😉\nwinking_face_with_tongue\t😜\nwolf_face\t🐺\nwoman\t👩\nwoman_artist\t👩\u200D🎨\nwoman_artist_dark_skin_tone\t👩🏿\u200D🎨\nwoman_artist_light_skin_tone\t👩🏻\u200D🎨\nwoman_artist_medium-dark_skin_tone\t👩🏾\u200D🎨\nwoman_artist_medium-light_skin_tone\t👩🏼\u200D🎨\nwoman_artist_medium_skin_tone\t👩🏽\u200D🎨\nwoman_astronaut\t👩\u200D🚀\nwoman_astronaut_dark_skin_tone\t👩🏿\u200D🚀\nwoman_astronaut_light_skin_tone\t👩🏻\u200D🚀\nwoman_astronaut_medium-dark_skin_tone\t👩🏾\u200D🚀\nwoman_astronaut_medium-light_skin_tone\t👩🏼\u200D🚀\nwoman_astronaut_medium_skin_tone\t👩🏽\u200D🚀\nwoman_biking\t🚴\u200D♀\uFE0F\nwoman_biking_dark_skin_tone\t🚴🏿\u200D♀\uFE0F\nwoman_biking_light_skin_tone\t🚴🏻\u200D♀\uFE0F\nwoman_biking_medium-dark_skin_tone\t🚴🏾\u200D♀\uFE0F\nwoman_biking_medium-light_skin_tone\t🚴🏼\u200D♀\uFE0F\nwoman_biking_medium_skin_tone\t🚴🏽\u200D♀\uFE0F\nwoman_bouncing_ball\t⛹\uFE0F\u200D♀\uFE0F\nwoman_bouncing_ball_dark_skin_tone\t⛹🏿\u200D♀\uFE0F\nwoman_bouncing_ball_light_skin_tone\t⛹🏻\u200D♀\uFE0F\nwoman_bouncing_ball_medium-dark_skin_tone\t⛹🏾\u200D♀\uFE0F\nwoman_bouncing_ball_medium-light_skin_tone\t⛹🏼\u200D♀\uFE0F\nwoman_bouncing_ball_medium_skin_tone\t⛹🏽\u200D♀\uFE0F\nwoman_bowing\t🙇\u200D♀\uFE0F\nwoman_bowing_dark_skin_tone\t🙇🏿\u200D♀\uFE0F\nwoman_bowing_light_skin_tone\t🙇🏻\u200D♀\uFE0F\nwoman_bowing_medium-dark_skin_tone\t🙇🏾\u200D♀\uFE0F\nwoman_bowing_medium-light_skin_tone\t🙇🏼\u200D♀\uFE0F\nwoman_bowing_medium_skin_tone\t🙇🏽\u200D♀\uFE0F\nwoman_cartwheeling\t🤸\u200D♀\uFE0F\nwoman_cartwheeling_dark_skin_tone\t🤸🏿\u200D♀\uFE0F\nwoman_cartwheeling_light_skin_tone\t🤸🏻\u200D♀\uFE0F\nwoman_cartwheeling_medium-dark_skin_tone\t🤸🏾\u200D♀\uFE0F\nwoman_cartwheeling_medium-light_skin_tone\t🤸🏼\u200D♀\uFE0F\nwoman_cartwheeling_medium_skin_tone\t🤸🏽\u200D♀\uFE0F\nwoman_climbing\t🧗\u200D♀\uFE0F\nwoman_climbing_dark_skin_tone\t🧗🏿\u200D♀\uFE0F\nwoman_climbing_light_skin_tone\t🧗🏻\u200D♀\uFE0F\nwoman_climbing_medium-dark_skin_tone\t🧗🏾\u200D♀\uFE0F\nwoman_climbing_medium-light_skin_tone\t🧗🏼\u200D♀\uFE0F\nwoman_climbing_medium_skin_tone\t🧗🏽\u200D♀\uFE0F\nwoman_construction_worker\t👷\u200D♀\uFE0F\nwoman_construction_worker_dark_skin_tone\t👷🏿\u200D♀\uFE0F\nwoman_construction_worker_light_skin_tone\t👷🏻\u200D♀\uFE0F\nwoman_construction_worker_medium-dark_skin_tone\t👷🏾\u200D♀\uFE0F\nwoman_construction_worker_medium-light_skin_tone\t👷🏼\u200D♀\uFE0F\nwoman_construction_worker_medium_skin_tone\t👷🏽\u200D♀\uFE0F\nwoman_cook\t👩\u200D🍳\nwoman_cook_dark_skin_tone\t👩🏿\u200D🍳\nwoman_cook_light_skin_tone\t👩🏻\u200D🍳\nwoman_cook_medium-dark_skin_tone\t👩🏾\u200D🍳\nwoman_cook_medium-light_skin_tone\t👩🏼\u200D🍳\nwoman_cook_medium_skin_tone\t👩🏽\u200D🍳\nwoman_dancing\t💃\nwoman_dancing_dark_skin_tone\t💃🏿\nwoman_dancing_light_skin_tone\t💃🏻\nwoman_dancing_medium-dark_skin_tone\t💃🏾\nwoman_dancing_medium-light_skin_tone\t💃🏼\nwoman_dancing_medium_skin_tone\t💃🏽\nwoman_dark_skin_tone\t👩🏿\nwoman_detective\t🕵\uFE0F\u200D♀\uFE0F\nwoman_detective_dark_skin_tone\t🕵🏿\u200D♀\uFE0F\nwoman_detective_light_skin_tone\t🕵🏻\u200D♀\uFE0F\nwoman_detective_medium-dark_skin_tone\t🕵🏾\u200D♀\uFE0F\nwoman_detective_medium-light_skin_tone\t🕵🏼\u200D♀\uFE0F\nwoman_detective_medium_skin_tone\t🕵🏽\u200D♀\uFE0F\nwoman_elf\t🧝\u200D♀\uFE0F\nwoman_elf_dark_skin_tone\t🧝🏿\u200D♀\uFE0F\nwoman_elf_light_skin_tone\t🧝🏻\u200D♀\uFE0F\nwoman_elf_medium-dark_skin_tone\t🧝🏾\u200D♀\uFE0F\nwoman_elf_medium-light_skin_tone\t🧝🏼\u200D♀\uFE0F\nwoman_elf_medium_skin_tone\t🧝🏽\u200D♀\uFE0F\nwoman_facepalming\t🤦\u200D♀\uFE0F\nwoman_facepalming_dark_skin_tone\t🤦🏿\u200D♀\uFE0F\nwoman_facepalming_light_skin_tone\t🤦🏻\u200D♀\uFE0F\nwoman_facepalming_medium-dark_skin_tone\t🤦🏾\u200D♀\uFE0F\nwoman_facepalming_medium-light_skin_tone\t🤦🏼\u200D♀\uFE0F\nwoman_facepalming_medium_skin_tone\t🤦🏽\u200D♀\uFE0F\nwoman_factory_worker\t👩\u200D🏭\nwoman_factory_worker_dark_skin_tone\t👩🏿\u200D🏭\nwoman_factory_worker_light_skin_tone\t👩🏻\u200D🏭\nwoman_factory_worker_medium-dark_skin_tone\t👩🏾\u200D🏭\nwoman_factory_worker_medium-light_skin_tone\t👩🏼\u200D🏭\nwoman_factory_worker_medium_skin_tone\t👩🏽\u200D🏭\nwoman_fairy\t🧚\u200D♀\uFE0F\nwoman_fairy_dark_skin_tone\t🧚🏿\u200D♀\uFE0F\nwoman_fairy_light_skin_tone\t🧚🏻\u200D♀\uFE0F\nwoman_fairy_medium-dark_skin_tone\t🧚🏾\u200D♀\uFE0F\nwoman_fairy_medium-light_skin_tone\t🧚🏼\u200D♀\uFE0F\nwoman_fairy_medium_skin_tone\t🧚🏽\u200D♀\uFE0F\nwoman_farmer\t👩\u200D🌾\nwoman_farmer_dark_skin_tone\t👩🏿\u200D🌾\nwoman_farmer_light_skin_tone\t👩🏻\u200D🌾\nwoman_farmer_medium-dark_skin_tone\t👩🏾\u200D🌾\nwoman_farmer_medium-light_skin_tone\t👩🏼\u200D🌾\nwoman_farmer_medium_skin_tone\t👩🏽\u200D🌾\nwoman_firefighter\t👩\u200D🚒\nwoman_firefighter_dark_skin_tone\t👩🏿\u200D🚒\nwoman_firefighter_light_skin_tone\t👩🏻\u200D🚒\nwoman_firefighter_medium-dark_skin_tone\t👩🏾\u200D🚒\nwoman_firefighter_medium-light_skin_tone\t👩🏼\u200D🚒\nwoman_firefighter_medium_skin_tone\t👩🏽\u200D🚒\nwoman_frowning\t🙍\u200D♀\uFE0F\nwoman_frowning_dark_skin_tone\t🙍🏿\u200D♀\uFE0F\nwoman_frowning_light_skin_tone\t🙍🏻\u200D♀\uFE0F\nwoman_frowning_medium-dark_skin_tone\t🙍🏾\u200D♀\uFE0F\nwoman_frowning_medium-light_skin_tone\t🙍🏼\u200D♀\uFE0F\nwoman_frowning_medium_skin_tone\t🙍🏽\u200D♀\uFE0F\nwoman_genie\t🧞\u200D♀\uFE0F\nwoman_gesturing_no\t🙅\u200D♀\uFE0F\nwoman_gesturing_no_dark_skin_tone\t🙅🏿\u200D♀\uFE0F\nwoman_gesturing_no_light_skin_tone\t🙅🏻\u200D♀\uFE0F\nwoman_gesturing_no_medium-dark_skin_tone\t🙅🏾\u200D♀\uFE0F\nwoman_gesturing_no_medium-light_skin_tone\t🙅🏼\u200D♀\uFE0F\nwoman_gesturing_no_medium_skin_tone\t🙅🏽\u200D♀\uFE0F\nwoman_gesturing_ok\t🙆\u200D♀\uFE0F\nwoman_gesturing_ok_dark_skin_tone\t🙆🏿\u200D♀\uFE0F\nwoman_gesturing_ok_light_skin_tone\t🙆🏻\u200D♀\uFE0F\nwoman_gesturing_ok_medium-dark_skin_tone\t🙆🏾\u200D♀\uFE0F\nwoman_gesturing_ok_medium-light_skin_tone\t🙆🏼\u200D♀\uFE0F\nwoman_gesturing_ok_medium_skin_tone\t🙆🏽\u200D♀\uFE0F\nwoman_getting_haircut\t💇\u200D♀\uFE0F\nwoman_getting_haircut_dark_skin_tone\t💇🏿\u200D♀\uFE0F\nwoman_getting_haircut_light_skin_tone\t💇🏻\u200D♀\uFE0F\nwoman_getting_haircut_medium-dark_skin_tone\t💇🏾\u200D♀\uFE0F\nwoman_getting_haircut_medium-light_skin_tone\t💇🏼\u200D♀\uFE0F\nwoman_getting_haircut_medium_skin_tone\t💇🏽\u200D♀\uFE0F\nwoman_getting_massage\t💆\u200D♀\uFE0F\nwoman_getting_massage_dark_skin_tone\t💆🏿\u200D♀\uFE0F\nwoman_getting_massage_light_skin_tone\t💆🏻\u200D♀\uFE0F\nwoman_getting_massage_medium-dark_skin_tone\t💆🏾\u200D♀\uFE0F\nwoman_getting_massage_medium-light_skin_tone\t💆🏼\u200D♀\uFE0F\nwoman_getting_massage_medium_skin_tone\t💆🏽\u200D♀\uFE0F\nwoman_golfing\t🏌\uFE0F\u200D♀\uFE0F\nwoman_golfing_dark_skin_tone\t🏌🏿\u200D♀\uFE0F\nwoman_golfing_light_skin_tone\t🏌🏻\u200D♀\uFE0F\nwoman_golfing_medium-dark_skin_tone\t🏌🏾\u200D♀\uFE0F\nwoman_golfing_medium-light_skin_tone\t🏌🏼\u200D♀\uFE0F\nwoman_golfing_medium_skin_tone\t🏌🏽\u200D♀\uFE0F\nwoman_guard\t💂\u200D♀\uFE0F\nwoman_guard_dark_skin_tone\t💂🏿\u200D♀\uFE0F\nwoman_guard_light_skin_tone\t💂🏻\u200D♀\uFE0F\nwoman_guard_medium-dark_skin_tone\t💂🏾\u200D♀\uFE0F\nwoman_guard_medium-light_skin_tone\t💂🏼\u200D♀\uFE0F\nwoman_guard_medium_skin_tone\t💂🏽\u200D♀\uFE0F\nwoman_health_worker\t👩\u200D⚕\uFE0F\nwoman_health_worker_dark_skin_tone\t👩🏿\u200D⚕\uFE0F\nwoman_health_worker_light_skin_tone\t👩🏻\u200D⚕\uFE0F\nwoman_health_worker_medium-dark_skin_tone\t👩🏾\u200D⚕\uFE0F\nwoman_health_worker_medium-light_skin_tone\t👩🏼\u200D⚕\uFE0F\nwoman_health_worker_medium_skin_tone\t👩🏽\u200D⚕\uFE0F\nwoman_in_lotus_position\t🧘\u200D♀\uFE0F\nwoman_in_lotus_position_dark_skin_tone\t🧘🏿\u200D♀\uFE0F\nwoman_in_lotus_position_light_skin_tone\t🧘🏻\u200D♀\uFE0F\nwoman_in_lotus_position_medium-dark_skin_tone\t🧘🏾\u200D♀\uFE0F\nwoman_in_lotus_position_medium-light_skin_tone\t🧘🏼\u200D♀\uFE0F\nwoman_in_lotus_position_medium_skin_tone\t🧘🏽\u200D♀\uFE0F\nwoman_in_manual_wheelchair\t👩\u200D🦽\nwoman_in_motorized_wheelchair\t👩\u200D🦼\nwoman_in_steamy_room\t🧖\u200D♀\uFE0F\nwoman_in_steamy_room_dark_skin_tone\t🧖🏿\u200D♀\uFE0F\nwoman_in_steamy_room_light_skin_tone\t🧖🏻\u200D♀\uFE0F\nwoman_in_steamy_room_medium-dark_skin_tone\t🧖🏾\u200D♀\uFE0F\nwoman_in_steamy_room_medium-light_skin_tone\t🧖🏼\u200D♀\uFE0F\nwoman_in_steamy_room_medium_skin_tone\t🧖🏽\u200D♀\uFE0F\nwoman_judge\t👩\u200D⚖\uFE0F\nwoman_judge_dark_skin_tone\t👩🏿\u200D⚖\uFE0F\nwoman_judge_light_skin_tone\t👩🏻\u200D⚖\uFE0F\nwoman_judge_medium-dark_skin_tone\t👩🏾\u200D⚖\uFE0F\nwoman_judge_medium-light_skin_tone\t👩🏼\u200D⚖\uFE0F\nwoman_judge_medium_skin_tone\t👩🏽\u200D⚖\uFE0F\nwoman_juggling\t🤹\u200D♀\uFE0F\nwoman_juggling_dark_skin_tone\t🤹🏿\u200D♀\uFE0F\nwoman_juggling_light_skin_tone\t🤹🏻\u200D♀\uFE0F\nwoman_juggling_medium-dark_skin_tone\t🤹🏾\u200D♀\uFE0F\nwoman_juggling_medium-light_skin_tone\t🤹🏼\u200D♀\uFE0F\nwoman_juggling_medium_skin_tone\t🤹🏽\u200D♀\uFE0F\nwoman_lifting_weights\t🏋\uFE0F\u200D♀\uFE0F\nwoman_lifting_weights_dark_skin_tone\t🏋🏿\u200D♀\uFE0F\nwoman_lifting_weights_light_skin_tone\t🏋🏻\u200D♀\uFE0F\nwoman_lifting_weights_medium-dark_skin_tone\t🏋🏾\u200D♀\uFE0F\nwoman_lifting_weights_medium-light_skin_tone\t🏋🏼\u200D♀\uFE0F\nwoman_lifting_weights_medium_skin_tone\t🏋🏽\u200D♀\uFE0F\nwoman_light_skin_tone\t👩🏻\nwoman_mage\t🧙\u200D♀\uFE0F\nwoman_mage_dark_skin_tone\t🧙🏿\u200D♀\uFE0F\nwoman_mage_light_skin_tone\t🧙🏻\u200D♀\uFE0F\nwoman_mage_medium-dark_skin_tone\t🧙🏾\u200D♀\uFE0F\nwoman_mage_medium-light_skin_tone\t🧙🏼\u200D♀\uFE0F\nwoman_mage_medium_skin_tone\t🧙🏽\u200D♀\uFE0F\nwoman_mechanic\t👩\u200D🔧\nwoman_mechanic_dark_skin_tone\t👩🏿\u200D🔧\nwoman_mechanic_light_skin_tone\t👩🏻\u200D🔧\nwoman_mechanic_medium-dark_skin_tone\t👩🏾\u200D🔧\nwoman_mechanic_medium-light_skin_tone\t👩🏼\u200D🔧\nwoman_mechanic_medium_skin_tone\t👩🏽\u200D🔧\nwoman_medium-dark_skin_tone\t👩🏾\nwoman_medium-light_skin_tone\t👩🏼\nwoman_medium_skin_tone\t👩🏽\nwoman_mountain_biking\t🚵\u200D♀\uFE0F\nwoman_mountain_biking_dark_skin_tone\t🚵🏿\u200D♀\uFE0F\nwoman_mountain_biking_light_skin_tone\t🚵🏻\u200D♀\uFE0F\nwoman_mountain_biking_medium-dark_skin_tone\t🚵🏾\u200D♀\uFE0F\nwoman_mountain_biking_medium-light_skin_tone\t🚵🏼\u200D♀\uFE0F\nwoman_mountain_biking_medium_skin_tone\t🚵🏽\u200D♀\uFE0F\nwoman_office_worker\t👩\u200D💼\nwoman_office_worker_dark_skin_tone\t👩🏿\u200D💼\nwoman_office_worker_light_skin_tone\t👩🏻\u200D💼\nwoman_office_worker_medium-dark_skin_tone\t👩🏾\u200D💼\nwoman_office_worker_medium-light_skin_tone\t👩🏼\u200D💼\nwoman_office_worker_medium_skin_tone\t👩🏽\u200D💼\nwoman_pilot\t👩\u200D✈\uFE0F\nwoman_pilot_dark_skin_tone\t👩🏿\u200D✈\uFE0F\nwoman_pilot_light_skin_tone\t👩🏻\u200D✈\uFE0F\nwoman_pilot_medium-dark_skin_tone\t👩🏾\u200D✈\uFE0F\nwoman_pilot_medium-light_skin_tone\t👩🏼\u200D✈\uFE0F\nwoman_pilot_medium_skin_tone\t👩🏽\u200D✈\uFE0F\nwoman_playing_handball\t🤾\u200D♀\uFE0F\nwoman_playing_handball_dark_skin_tone\t🤾🏿\u200D♀\uFE0F\nwoman_playing_handball_light_skin_tone\t🤾🏻\u200D♀\uFE0F\nwoman_playing_handball_medium-dark_skin_tone\t🤾🏾\u200D♀\uFE0F\nwoman_playing_handball_medium-light_skin_tone\t🤾🏼\u200D♀\uFE0F\nwoman_playing_handball_medium_skin_tone\t🤾🏽\u200D♀\uFE0F\nwoman_playing_water_polo\t🤽\u200D♀\uFE0F\nwoman_playing_water_polo_dark_skin_tone\t🤽🏿\u200D♀\uFE0F\nwoman_playing_water_polo_light_skin_tone\t🤽🏻\u200D♀\uFE0F\nwoman_playing_water_polo_medium-dark_skin_tone\t🤽🏾\u200D♀\uFE0F\nwoman_playing_water_polo_medium-light_skin_tone\t🤽🏼\u200D♀\uFE0F\nwoman_playing_water_polo_medium_skin_tone\t🤽🏽\u200D♀\uFE0F\nwoman_police_officer\t👮\u200D♀\uFE0F\nwoman_police_officer_dark_skin_tone\t👮🏿\u200D♀\uFE0F\nwoman_police_officer_light_skin_tone\t👮🏻\u200D♀\uFE0F\nwoman_police_officer_medium-dark_skin_tone\t👮🏾\u200D♀\uFE0F\nwoman_police_officer_medium-light_skin_tone\t👮🏼\u200D♀\uFE0F\nwoman_police_officer_medium_skin_tone\t👮🏽\u200D♀\uFE0F\nwoman_pouting\t🙎\u200D♀\uFE0F\nwoman_pouting_dark_skin_tone\t🙎🏿\u200D♀\uFE0F\nwoman_pouting_light_skin_tone\t🙎🏻\u200D♀\uFE0F\nwoman_pouting_medium-dark_skin_tone\t🙎🏾\u200D♀\uFE0F\nwoman_pouting_medium-light_skin_tone\t🙎🏼\u200D♀\uFE0F\nwoman_pouting_medium_skin_tone\t🙎🏽\u200D♀\uFE0F\nwoman_raising_hand\t🙋\u200D♀\uFE0F\nwoman_raising_hand_dark_skin_tone\t🙋🏿\u200D♀\uFE0F\nwoman_raising_hand_light_skin_tone\t🙋🏻\u200D♀\uFE0F\nwoman_raising_hand_medium-dark_skin_tone\t🙋🏾\u200D♀\uFE0F\nwoman_raising_hand_medium-light_skin_tone\t🙋🏼\u200D♀\uFE0F\nwoman_raising_hand_medium_skin_tone\t🙋🏽\u200D♀\uFE0F\nwoman_rowing_boat\t🚣\u200D♀\uFE0F\nwoman_rowing_boat_dark_skin_tone\t🚣🏿\u200D♀\uFE0F\nwoman_rowing_boat_light_skin_tone\t🚣🏻\u200D♀\uFE0F\nwoman_rowing_boat_medium-dark_skin_tone\t🚣🏾\u200D♀\uFE0F\nwoman_rowing_boat_medium-light_skin_tone\t🚣🏼\u200D♀\uFE0F\nwoman_rowing_boat_medium_skin_tone\t🚣🏽\u200D♀\uFE0F\nwoman_running\t🏃\u200D♀\uFE0F\nwoman_running_dark_skin_tone\t🏃🏿\u200D♀\uFE0F\nwoman_running_light_skin_tone\t🏃🏻\u200D♀\uFE0F\nwoman_running_medium-dark_skin_tone\t🏃🏾\u200D♀\uFE0F\nwoman_running_medium-light_skin_tone\t🏃🏼\u200D♀\uFE0F\nwoman_running_medium_skin_tone\t🏃🏽\u200D♀\uFE0F\nwoman_scientist\t👩\u200D🔬\nwoman_scientist_dark_skin_tone\t👩🏿\u200D🔬\nwoman_scientist_light_skin_tone\t👩🏻\u200D🔬\nwoman_scientist_medium-dark_skin_tone\t👩🏾\u200D🔬\nwoman_scientist_medium-light_skin_tone\t👩🏼\u200D🔬\nwoman_scientist_medium_skin_tone\t👩🏽\u200D🔬\nwoman_shrugging\t🤷\u200D♀\uFE0F\nwoman_shrugging_dark_skin_tone\t🤷🏿\u200D♀\uFE0F\nwoman_shrugging_light_skin_tone\t🤷🏻\u200D♀\uFE0F\nwoman_shrugging_medium-dark_skin_tone\t🤷🏾\u200D♀\uFE0F\nwoman_shrugging_medium-light_skin_tone\t🤷🏼\u200D♀\uFE0F\nwoman_shrugging_medium_skin_tone\t🤷🏽\u200D♀\uFE0F\nwoman_singer\t👩\u200D🎤\nwoman_singer_dark_skin_tone\t👩🏿\u200D🎤\nwoman_singer_light_skin_tone\t👩🏻\u200D🎤\nwoman_singer_medium-dark_skin_tone\t👩🏾\u200D🎤\nwoman_singer_medium-light_skin_tone\t👩🏼\u200D🎤\nwoman_singer_medium_skin_tone\t👩🏽\u200D🎤\nwoman_student\t👩\u200D🎓\nwoman_student_dark_skin_tone\t👩🏿\u200D🎓\nwoman_student_light_skin_tone\t👩🏻\u200D🎓\nwoman_student_medium-dark_skin_tone\t👩🏾\u200D🎓\nwoman_student_medium-light_skin_tone\t👩🏼\u200D🎓\nwoman_student_medium_skin_tone\t👩🏽\u200D🎓\nwoman_surfing\t🏄\u200D♀\uFE0F\nwoman_surfing_dark_skin_tone\t🏄🏿\u200D♀\uFE0F\nwoman_surfing_light_skin_tone\t🏄🏻\u200D♀\uFE0F\nwoman_surfing_medium-dark_skin_tone\t🏄🏾\u200D♀\uFE0F\nwoman_surfing_medium-light_skin_tone\t🏄🏼\u200D♀\uFE0F\nwoman_surfing_medium_skin_tone\t🏄🏽\u200D♀\uFE0F\nwoman_swimming\t🏊\u200D♀\uFE0F\nwoman_swimming_dark_skin_tone\t🏊🏿\u200D♀\uFE0F\nwoman_swimming_light_skin_tone\t🏊🏻\u200D♀\uFE0F\nwoman_swimming_medium-dark_skin_tone\t🏊🏾\u200D♀\uFE0F\nwoman_swimming_medium-light_skin_tone\t🏊🏼\u200D♀\uFE0F\nwoman_swimming_medium_skin_tone\t🏊🏽\u200D♀\uFE0F\nwoman_teacher\t👩\u200D🏫\nwoman_teacher_dark_skin_tone\t👩🏿\u200D🏫\nwoman_teacher_light_skin_tone\t👩🏻\u200D🏫\nwoman_teacher_medium-dark_skin_tone\t👩🏾\u200D🏫\nwoman_teacher_medium-light_skin_tone\t👩🏼\u200D🏫\nwoman_teacher_medium_skin_tone\t👩🏽\u200D🏫\nwoman_technologist\t👩\u200D💻\nwoman_technologist_dark_skin_tone\t👩🏿\u200D💻\nwoman_technologist_light_skin_tone\t👩🏻\u200D💻\nwoman_technologist_medium-dark_skin_tone\t👩🏾\u200D💻\nwoman_technologist_medium-light_skin_tone\t👩🏼\u200D💻\nwoman_technologist_medium_skin_tone\t👩🏽\u200D💻\nwoman_tipping_hand\t💁\u200D♀\uFE0F\nwoman_tipping_hand_dark_skin_tone\t💁🏿\u200D♀\uFE0F\nwoman_tipping_hand_light_skin_tone\t💁🏻\u200D♀\uFE0F\nwoman_tipping_hand_medium-dark_skin_tone\t💁🏾\u200D♀\uFE0F\nwoman_tipping_hand_medium-light_skin_tone\t💁🏼\u200D♀\uFE0F\nwoman_tipping_hand_medium_skin_tone\t💁🏽\u200D♀\uFE0F\nwoman_vampire\t🧛\u200D♀\uFE0F\nwoman_vampire_dark_skin_tone\t🧛🏿\u200D♀\uFE0F\nwoman_vampire_light_skin_tone\t🧛🏻\u200D♀\uFE0F\nwoman_vampire_medium-dark_skin_tone\t🧛🏾\u200D♀\uFE0F\nwoman_vampire_medium-light_skin_tone\t🧛🏼\u200D♀\uFE0F\nwoman_vampire_medium_skin_tone\t🧛🏽\u200D♀\uFE0F\nwoman_walking\t🚶\u200D♀\uFE0F\nwoman_walking_dark_skin_tone\t🚶🏿\u200D♀\uFE0F\nwoman_walking_light_skin_tone\t🚶🏻\u200D♀\uFE0F\nwoman_walking_medium-dark_skin_tone\t🚶🏾\u200D♀\uFE0F\nwoman_walking_medium-light_skin_tone\t🚶🏼\u200D♀\uFE0F\nwoman_walking_medium_skin_tone\t🚶🏽\u200D♀\uFE0F\nwoman_wearing_turban\t👳\u200D♀\uFE0F\nwoman_wearing_turban_dark_skin_tone\t👳🏿\u200D♀\uFE0F\nwoman_wearing_turban_light_skin_tone\t👳🏻\u200D♀\uFE0F\nwoman_wearing_turban_medium-dark_skin_tone\t👳🏾\u200D♀\uFE0F\nwoman_wearing_turban_medium-light_skin_tone\t👳🏼\u200D♀\uFE0F\nwoman_wearing_turban_medium_skin_tone\t👳🏽\u200D♀\uFE0F\nwoman_with_headscarf\t🧕\nwoman_with_headscarf_dark_skin_tone\t🧕🏿\nwoman_with_headscarf_light_skin_tone\t🧕🏻\nwoman_with_headscarf_medium-dark_skin_tone\t🧕🏾\nwoman_with_headscarf_medium-light_skin_tone\t🧕🏼\nwoman_with_headscarf_medium_skin_tone\t🧕🏽\nwoman_with_probing_cane\t👩\u200D🦯\nwoman_zombie\t🧟\u200D♀\uFE0F\nwoman’s_boot\t👢\nwoman’s_clothes\t👚\nwoman’s_hat\t👒\nwoman’s_sandal\t👡\nwomen_with_bunny_ears\t👯\u200D♀\uFE0F\nwomen_wrestling\t🤼\u200D♀\uFE0F\nwomen’s_room\t🚺\nwoozy_face\t🥴\nworld_map\t🗺\nworried_face\t😟\nwrapped_gift\t🎁\nwrench\t🔧\nwriting_hand\t✍\nwriting_hand_dark_skin_tone\t✍🏿\nwriting_hand_light_skin_tone\t✍🏻\nwriting_hand_medium-dark_skin_tone\t✍🏾\nwriting_hand_medium-light_skin_tone\t✍🏼\nwriting_hand_medium_skin_tone\t✍🏽\nwalking\t🚶\nwc\t🚾\nwaving_black_flag\t🏴\nwave\t👋\nwaving_white_flag\t🏳\nweary\t😩\nweight_lifter\t🏋\nwhale2\t🐋\nwheelchair\t♿\nwhite_frowning_face\t☹\nwhite_check_mark\t✅\nwhite_medium_small_square\t◽\nwhite_sun_behind_cloud\t🌥\nwhite_sun_behind_cloud_with_rain\t🌦\nwhite_sun_with_small_cloud\t🌤\nwind_blowing_face\t🌬\nwink\t😉\nwolf\t🐺\nwomans_clothes\t👚\nwomans_hat\t👒\nwomens\t🚺\nworried\t😟",
  "yemen\t🇾🇪\nyarn\t🧶\nyawning_face\t🥱\nyellow_circle\t🟡\nyellow_heart\t💛\nyellow_square\t🟨\nyen_banknote\t💴\nyo-yo\t🪀\nyin_yang\t☯\nyen\t💴\nyum\t😋",
  "zambia\t🇿🇲\nzimbabwe\t🇿🇼\nzany_face\t🤪\nzebra\t🦓\nzipper-mouth_face\t🤐\nzombie\t🧟\nzzz\t💤\nzap\t⚡\nzero\t0\uFE0F\u20E3\nzipper__mouth_face\t🤐",
  "åland_islands\t🇦🇽",
  "8ball\t🎱",
  "x\t❌",
  "+1\t👍",
  "__1\t👎",
  "-1\t👎"
]

def emojiNamed? (name : String) : Option String :=
  emojiTable.findSome? fun group =>
    (group.splitOn "\n").findSome? fun line =>
      match line.splitOn "\t" with
      | [n, e] => if n == name then some e else none
      | _ => none

end PluginPack.Console
